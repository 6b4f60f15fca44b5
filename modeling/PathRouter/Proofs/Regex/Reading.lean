import PathRouter.Regex.Parser

/-!
# Reading the plain parts of an expression

The reader takes an expression piece by piece, and most of what is said about it is of the form
"this text leads from that state to this one, whatever follows". `State.Reads` is that relation; it
composes along the text (`State.Reads.append`), so an expression is read by reading its parts.

Two parts are treated here, because they are the ones that text from outside goes into:

* quoted text, which adds one character set for each character (`State.reads_quote`);
* the opening of a named group, which takes every name that `isGroupName` allows and that is not in
  use (`State.reads_open`).
-/

namespace PathRouter.Regex

/-- A chain of two computations succeeds if both do. -/
theorem exists_of_bind_eq_ok {ε α β : Type} {x : Except ε α} {f : α → Except ε β} {b : β}
    (h : (do f (← x)) = .ok b) : ∃ a, x = .ok a ∧ f a = .ok b := by
  cases x with
  | error e => cases h
  | ok a => exact ⟨a, rfl, h⟩

/-- The piece for a character that stands for itself. -/
def Piece.ofChar (c : Char) : Piece := { node := .set (.single c) }

namespace State

/-! ## The state at the end -/

/-- Reads to the end of the text like `State.run`, and gives the state that has been reached. -/
def reached : Nat → State → List Char → Except Error State
  | 0, st, _ => .ok st
  | fuel + 1, st, cs =>
    match st.flags.skip cs with
    | [] => .ok st
    | c :: cs => do
      let (st, cs) ← st.step c cs
      reached fuel st cs

/-- The result of reading is that of the state that has been reached. -/
theorem run_eq_reached (n : Nat) (st : State) (cs : List Char) :
    run n st cs = (do (← reached n st cs).finish) := by
  induction n generalizing st cs with
  | zero => rfl
  | succ n ih =>
      cases hskip : st.flags.skip cs with
      | nil =>
          simp only [run, reached, hskip]
          rfl
      | cons c cs' =>
          cases hstep : st.step c cs' with
          | error e =>
              simp only [run, reached, hskip, hstep]
              rfl
          | ok r =>
              simp only [run, reached, hskip, hstep]
              exact ih r.1 r.2

/-! ## Texts that lead from one state to another -/

/-- Reading a text leads from one state to another, whatever follows, and takes no more steps than
it has characters. -/
def Reads (st : State) (text : List Char) (st' : State) : Prop :=
  ∀ rest n, (text ++ rest).length ≤ n →
    ∃ m, rest.length ≤ m ∧ reached n st (text ++ rest) = reached m st' rest

theorem reads_nil (st : State) : Reads st [] st := fun _ n h => ⟨n, h, rfl⟩

theorem Reads.append {st st' st'' : State} {u v : List Char} (h : Reads st u st')
    (h' : Reads st' v st'') : Reads st (u ++ v) st'' := by
  intro rest n hn
  obtain ⟨m, hm, e⟩ := h (v ++ rest) n (by simpa using hn)
  obtain ⟨m', hm', e'⟩ := h' rest m hm
  exact ⟨m', hm', by rw [List.append_assoc, e, e']⟩

/-- One step, with the text `u` read and the text `v` not yet read after it. -/
theorem Reads.step {s r t : State} {c : Char} {u v : List Char}
    (hf : s.flags.freeSpacing = false)
    (h : ∀ rest, s.step c (u ++ (v ++ rest)) = .ok (r, v ++ rest)) (h' : Reads r v t) :
    Reads s (c :: (u ++ v)) t := by
  intro rest n hn
  obtain ⟨n, rfl⟩ : ∃ k, n = k + 1 := ⟨n - 1, by simp at hn; omega⟩
  obtain ⟨m, hm, e⟩ := h' rest n (by simp at hn ⊢; omega)
  refine ⟨m, hm, ?_⟩
  rw [← e]
  simp only [List.cons_append, List.append_assoc, reached,
    Flags.skip_of_not_freeSpacing hf, h rest]
  rfl

/-- A step that reads all of a text. -/
theorem reads_of_step {s t : State} {c : Char} {u : List Char}
    (hf : s.flags.freeSpacing = false) (h : ∀ rest, s.step c (u ++ rest) = .ok (t, rest)) :
    Reads s (c :: u) t := by
  have := Reads.step (v := []) hf h (reads_nil t)
  rwa [List.append_nil] at this

theorem reached_nil (n : Nat) (st : State) : reached n st [] = .ok st := by
  cases n with
  | zero => rfl
  | succ n =>
      have hskip : st.flags.skip [] = [] := by unfold Flags.skip; split <;> rfl
      simp only [reached, hskip]

/-- The state at the end of the text. -/
theorem Reads.reached_eq {st st' : State} {text : List Char} (h : Reads st text st') :
    reached text.length st text = .ok st' := by
  obtain ⟨m, -, e⟩ := h [] text.length (by simp)
  rw [List.append_nil] at e
  rw [e, reached_nil]

/-- What has been read at the end of the text is the result. -/
theorem Reads.run_eq {st st' : State} {text : List Char} (h : Reads st text st') :
    run text.length st text = st'.finish := by
  rw [run_eq_reached, h.reached_eq]
  rfl

/-! ## Quoted text -/

theorem step_of_not_isMeta (st : State) {c : Char} (hc : isMeta c = false) (cs : List Char) :
    st.step c cs = .ok (st.push (st.literal c) 0, cs) := by
  unfold step
  split <;> first | rfl | exact absurd hc (by decide)

theorem escape_read_of_isMeta (f : Flags) {c : Char} (hc : isMeta c = true) (cs : List Char) :
    Escape.read f (c :: cs) = .ok (.char c, cs) := by
  have hd : c.isDigit = false := by
    simp only [isMeta, List.mem_cons, List.not_mem_nil, or_false, decide_eq_true_eq] at hc
    rcases hc with h | h | h | h | h | h | h | h | h | h | h | h | h | h | h | h | h | h <;>
      subst h <;> decide
  simp [Escape.read, hd, hc]

theorem reads_quote_char {st : State} (hf : st.flags = {}) (c : Char) :
    Reads st (quote [c]) { st with items := Piece.ofChar c :: st.items } := by
  have hfree : st.flags.freeSpacing = false := by rw [hf]
  have hlit : st.push (st.literal c) 0 = { st with items := Piece.ofChar c :: st.items } := by
    simp [push, literal, Piece.ofChar, CharSet.foldIf, hf]
  by_cases hc : isMeta c = true
  · rw [quote, if_pos hc, quote]
    apply reads_of_step hfree
    intro rest
    rw [← hlit]
    show (Escape.read st.flags (c :: rest) >>= _) = _
    rw [escape_read_of_isMeta st.flags hc]
    rfl
  · rw [quote, if_neg hc, quote]
    apply reads_of_step hfree
    intro rest
    rw [← hlit]
    exact step_of_not_isMeta st (by simpa using hc) rest

theorem quote_append (u v : List Char) : quote (u ++ v) = quote u ++ quote v := by
  induction u with
  | nil => rfl
  | cons c cs ih =>
      simp only [List.cons_append, quote, ih]
      split <;> rfl

/-- Quoted text is read character by character. -/
theorem reads_quote (text : List Char) {s : State} (hf : s.flags = {}) :
    Reads s (quote text)
      { s with items := (text.map Piece.ofChar).reverse ++ s.items } := by
  induction text generalizing s with
  | nil => exact reads_nil s
  | cons c cs ih =>
      rw [show quote (c :: cs) = quote [c] ++ quote cs from quote_append [c] cs]
      have :=
        (reads_quote_char hf c).append (ih (s := { s with items := Piece.ofChar c :: s.items }) hf)
      simpa using this

/-! ## Named groups -/

/-- The character that ends a group name cannot be in it. -/
theorem isNameChar_close : isNameChar '>' = false := by
  have ha : Unicode.isAlphabetic '>' = false := by
    rw [Unicode.isAlphabetic, Unicode.RangeTable.covers_eq_any_toList]
    decide +kernel
  have hn : Unicode.isNumber '>' = false := by
    rw [Unicode.isNumber, Unicode.RangeTable.covers_eq_any_toList]
    decide +kernel
  simp [isNameChar, Unicode.isAlphanumeric, ha, hn]

theorem isNameChar_of_isNameStart {c : Char} (h : isNameStart c = true) : isNameChar c = true := by
  simp only [isNameStart, Bool.or_eq_true] at h
  rcases h with h | h
  · simp [isNameChar, h]
  · simp [isNameChar, Unicode.isAlphanumeric, h]

/-- Small letters make names. -/
theorem isGroupName_of_isLower {name : List Char} (hne : name ≠ [])
    (h : name.all Char.isLower = true) : isGroupName name = true := by
  have hrun : (0x61, 0x7A) ∈ Unicode.alphabeticRuns.toList := by decide +kernel
  have hletter : ∀ c ∈ name, Unicode.isAlphabetic c = true := by
    intro c hc
    have hrange : 0x61 ≤ c.toNat ∧ c.toNat ≤ 0x7A := by
      have hlower : (decide _ && decide _) = true := List.all_eq_true.1 h c hc
      rw [Bool.and_eq_true, decide_eq_true_iff, decide_eq_true_iff] at hlower
      exact hlower
    exact Unicode.RangeTable.covers_of_mem hrun hrange.1 hrange.2
  cases name with
  | nil => exact absurd rfl hne
  | cons c cs =>
      rw [List.forall_mem_cons] at hletter
      rw [isGroupName, Bool.and_eq_true, List.all_eq_true]
      refine ⟨by rw [isNameStart, hletter.1, Bool.or_true], ?_⟩
      intro d hd
      rw [isNameChar, Unicode.isAlphanumeric, hletter.2 d hd, Bool.true_or, Bool.or_true]

theorem isNameChar_ne_close {c : Char} (h : isNameChar c = true) : (c == '>') = false := by
  rw [beq_eq_false_iff_ne]
  rintro rfl
  rw [isNameChar_close] at h
  exact Bool.false_ne_true h

theorem readName_of_all {name : List Char} (h : name.all isNameChar = true) (rest : List Char) :
    readName false (name ++ '>' :: rest) = .ok (name, rest) := by
  induction name with
  | nil => rfl
  | cons c cs ih =>
      simp only [List.all_cons, Bool.and_eq_true] at h
      simp only [List.cons_append, readName, isNameChar_ne_close h.1, Bool.false_eq_true, if_false,
        h.1, if_true, ih h.2]
      rfl

theorem readName_of_isGroupName {name : List Char} (h : isGroupName name = true)
    (rest : List Char) : readName true (name ++ '>' :: rest) = .ok (name, rest) := by
  cases name with
  | nil => simp [isGroupName] at h
  | cons c cs =>
      simp only [isGroupName, Bool.and_eq_true] at h
      simp only [List.cons_append, readName, isNameChar_ne_close (isNameChar_of_isNameStart h.1),
        Bool.false_eq_true, if_false, h.1, if_true, readName_of_all h.2]
      rfl

/-- A group opens under every name that is allowed and not in use. -/
theorem reads_open {st : State} (hf : st.flags = {}) {name : List Char}
    (hname : isGroupName name = true) (hnew : String.ofList name ∉ st.names) :
    Reads st ("(?P<".toList ++ name ++ ['>']) (st.openCapture (some (String.ofList name))) := by
  have hfree : st.flags.freeSpacing = false := by rw [hf]
  have hne : (String.ofList name).isEmpty = false := by
    cases name with
    | nil => simp [isGroupName] at hname
    | cons c cs => simp [← String.toList_inj]
  have hcont : st.names.contains (String.ofList name) = false := by
    simpa using hnew
  show Reads st ('(' :: ("?P<".toList ++ name ++ ['>'])) _
  apply reads_of_step hfree
  intro rest
  show st.openAny _ = _
  unfold openAny
  rw [Flags.skip_of_not_freeSpacing hfree]
  show st.openNamed (name ++ ['>'] ++ rest) = _
  rw [List.append_assoc, List.singleton_append]
  unfold openNamed
  rw [readName_of_isGroupName hname rest]
  show (if (String.ofList name).isEmpty = true then _ else _) = _
  rw [hne, hcont]
  rfl

end State

/-- An expression that can be read and is not nested too deep is the result, unless it is too
large. -/
theorem Node.parse_of_run {cs : List Char} {p : Piece} (h : State.run cs.length {} cs = .ok p)
    (hdepth : p.depth ≤ maxDepth) :
    Node.parse cs = if maxFootprint < p.node.footprint then .error .tooLarge else .ok p.node := by
  rw [Node.parse, h]
  show (if maxDepth < p.depth then Except.error Error.tooDeep
    else if maxFootprint < p.node.footprint then Except.error Error.tooLarge
    else Except.ok p.node) = _
  rw [if_neg (Nat.not_lt_of_le hdepth)]

end PathRouter.Regex
