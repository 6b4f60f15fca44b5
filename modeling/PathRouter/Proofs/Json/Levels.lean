import PathRouter.Json.Record

/-!
# What levels allow

A reader is given the number of levels that it may open, and every list and every record opens one.
So what is read from a text, whatever the text is, takes no more levels than there are: a list
takes one more than its elements, and a record one more than its fields.

* `gives_readList` — lists;
* `Layout.gives_read` — records, by what every field keeps.
-/

namespace PathRouter.Json

variable {α β σ : Type} {P : Nat → α → Prop}

/-- Everything that is read with some levels has a property. -/
def Gives (read : Reader α) (P : Nat → α → Prop) : Prop :=
  ∀ ⦃stray levels cs a rest⦄, read stray levels cs = .ok (a, rest) → P levels a

/-- A property of what has one level more than its parts. -/
def Within (P : Nat → α → Prop) (levels : Nat) (a : α) : Prop :=
  ∃ inner, levels = inner + 1 ∧ P inner a

theorem gives_any (read : Reader α) : Gives read fun _ _ => True :=
  fun _ _ _ _ _ _ => trivial

theorem Within.pos {levels : Nat} {a : α} (h : Within P levels a) : 1 ≤ levels := by
  obtain ⟨inner, rfl, -⟩ := h
  exact Nat.succ_pos inner

/-! ## Lists -/

theorem forall_mem_of_readItems {read : List Char → Parsed α} {p : α → Prop}
    (h : ∀ {cs a rest}, read cs = .ok (a, rest) → p a) {fuel : Nat} {first : Bool}
    {cs rest : List Char} {as : List α} (hread : readItems read fuel first cs = .ok (as, rest)) :
    ∀ a ∈ as, p a := by
  induction fuel generalizing first cs as with
  | zero => cases hread
  | succ fuel ih =>
      rw [readItems] at hread
      split at hread
      · cases hread
      · cases hread
        exact fun _ hnil => absurd hnil List.not_mem_nil
      · split at hread
        · cases hread
        next a cs' ha =>
          cases hitems : readItems read fuel false cs' with
          | error e =>
              rw [hitems] at hread
              cases hread
          | ok items =>
              rw [hitems] at hread
              cases hread
              exact List.forall_mem_cons.2 ⟨h ha, ih hitems⟩

/-- Nothing is read from a value of another kind. -/
theorem refuse_ne_ok {stray : Option Char} {wanted : Wanted} {c : Char} {cs : List Char}
    {p : α × List Char} : refuse stray wanted c cs ≠ .ok p := by
  intro h
  unfold refuse at h
  split at h
  · cases h
  · split at h
    · cases h
    · split at h <;> cases h

/-- The elements of a list have one level less. -/
theorem gives_readList {read : Reader α} (h : Gives read P) :
    Gives (readList read) (Within fun levels as => ∀ a ∈ as, P levels a) := by
  intro stray levels cs as rest hread
  rw [readList] at hread
  split at hread
  · cases hread
  · split at hread
    · cases levels with
      | zero => cases hread
      | succ levels => exact ⟨levels, rfl, forall_mem_of_readItems (fun ha => h ha) hread⟩
    · exact absurd hread refuse_ne_ok

/-! ## Records -/

theorem Gives.checked {Q : Nat → β → Prop} {read : Reader α} (h : Gives read P)
    {check : α → Except DecodeError β}
    (hcheck : ∀ levels a b, P levels a → check a = .ok b → Q levels b) :
    Gives (readChecked read check) Q := by
  intro stray levels cs b rest hread
  rw [readChecked] at hread
  split at hread
  · cases hread
  next a cs' ha =>
    split at hread
    · cases hread
    next hb =>
      cases hread
      exact hcheck levels a b (h ha) hb

/-- Reading a field keeps a property of the draft. -/
def Field.Keeps (f : Field σ) (Q : Nat → σ → Prop) : Prop :=
  ∀ draft, Gives (f.read draft) fun levels draft' => Q levels draft → Q levels draft'

variable {Q : Nat → σ → Prop}

theorem Field.keeps_of {key : String} {hasDefault : Bool} {get : σ → Option α} {set : σ → α → σ}
    {read : Reader α} (h : Gives read P)
    (hset : ∀ levels draft a, Q levels draft → P levels a → Q levels (set draft a)) :
    (Field.of key hasDefault get set read).Keeps Q := by
  intro draft stray levels cs draft' rest hread hdraft
  simp only [Field.of] at hread
  cases hvalue : read stray levels cs with
  | error e =>
      rw [hvalue] at hread
      cases hread
  | ok p =>
      rw [hvalue] at hread
      cases hread
      exact hset levels draft p.1 hdraft (h hvalue)

namespace Layout

variable {l : Layout σ} {stray : Option Char} {levels : Nat} {draft draft' : σ}
    {cs rest : List Char}

theorem holds_of_readMembers (hkeeps : ∀ f ∈ l.fields, f.Keeps Q) {fuel : Nat} {first : Bool}
    (hdraft : Q levels draft)
    (h : l.readMembers stray levels fuel first draft cs = .ok (draft', rest)) :
    Q levels draft' := by
  induction fuel generalizing first draft cs with
  | zero => cases h
  | succ fuel ih =>
      rw [readMembers] at h
      split at h
      · cases h
      · split at h
        · cases h
        · cases h
          exact hdraft
      · split at h
        · -- a member that belongs to no field is skipped
          split at h
          · cases h
          · split at h
            · cases h
            · exact ih hdraft h
        next f hfind =>
          split at h
          · cases h
          · split at h
            · cases h
            · split at h
              · cases h
              next hread => exact ih (hkeeps f (List.mem_of_find?_eq_some hfind) _ hread hdraft) h

theorem holds_of_readPositions {fs : List (Field σ)} (hkeeps : ∀ f ∈ fs, f.Keeps Q) {index : Nat}
    (hdraft : Q levels draft)
    (h : l.readPositions stray levels fs index draft cs = .ok (draft', rest)) :
    Q levels draft' := by
  induction fs generalizing index draft cs with
  | nil =>
      rw [readPositions] at h
      split at h
      · cases h
      · split at h
        · cases h
          exact hdraft
        · cases h
  | cons f fs ih =>
      rw [List.forall_mem_cons] at hkeeps
      rw [readPositions] at h
      split at h
      · cases h
      · split at h
        · exact ih hkeeps.2 hdraft h
        · cases h
      · split at h
        · cases h
        next hread => exact ih hkeeps.2 (hkeeps.1 _ hread hdraft) h

/-- The fields of a record have one level less. -/
theorem gives_read {blank : σ} (hblank : ∀ levels, Q levels blank)
    (hkeeps : ∀ f ∈ l.fields, f.Keeps Q) : Gives (l.read blank) (Within Q) := by
  intro stray levels cs draft rest h
  rw [read] at h
  split at h
  · cases h
  · split at h
    · cases levels with
      | zero => cases h
      | succ levels => exact ⟨levels, rfl, holds_of_readPositions hkeeps (hblank levels) h⟩
    · split at h
      · cases levels with
        | zero => cases h
        | succ levels => exact ⟨levels, rfl, holds_of_readMembers hkeeps (hblank levels) h⟩
      · exact absurd h refuse_ne_ok

/-- A record takes a level, whatever its fields are. -/
theorem gives_pos (l : Layout σ) (blank : σ) (check : σ → Except DecodeError β) :
    Gives (readChecked (l.read blank) check) fun levels _ => 1 ≤ levels := by
  have hany : Gives (l.read blank) (Within fun _ _ => True) :=
    gives_read (fun _ => trivial) fun _ _ _ _ _ _ _ _ _ _ => trivial
  exact hany.checked fun _ _ _ hdraft _ => hdraft.pos

end Layout

/-- What is read from a document is read with all levels that a document may open. -/
theorem Gives.of_readDocument {read : Reader α} (h : Gives read P) {doc : String} {a : α}
    (hread : readDocument read doc = .ok a) : P maxLevels a := by
  rw [readDocument, readWhole] at hread
  split at hread
  · cases hread
  next ha =>
    split at hread
    · cases hread
      exact h ha
    · cases hread

end PathRouter.Json
