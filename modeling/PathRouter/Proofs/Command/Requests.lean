import Mathlib.Data.List.SplitBy
import PathRouter.Command.Run

/-!
# Requests on the command line and on the standard input

A request is a path and a method.  It can be put as the arguments of a call, or as a line of the
standard input, and both are read as the request.  A line has white space between its words and a
line break at its end, so there must be none in the path and in the method, and the path must not
be empty.

* `readRequests_inputText` — lines of requests are read as the requests;
* `read_queryLine` — what the arguments are read as, if they are accepted;
* `read_guardedQueryLine` — arguments that are accepted for every path and every method.
-/

namespace PathRouter.Command

/-! ## Words -/

section Words

variable {cs ds : List Char}

/-- Whether two characters stand in the same run, be it a word or white space between words. -/
abbrev sameRun (a b : Char) : Bool :=
  Unicode.isWhite a == Unicode.isWhite b

theorem splitBy_of_not_isWhite (hne : cs ≠ []) (h : ∀ c ∈ cs, Unicode.isWhite c = false) :
    cs.splitBy sameRun = [cs] := by
  refine List.splitBy_of_isChain hne (List.Pairwise.isChain ?_)
  exact List.pairwise_of_forall_mem_list fun a ha b hb => by simp [sameRun, h a ha, h b hb]

theorem all_isWhite_eq_false (hne : cs ≠ []) (h : ∀ c ∈ cs, Unicode.isWhite c = false) :
    cs.all Unicode.isWhite = false := by
  obtain ⟨c, hc⟩ := List.exists_mem_of_ne_nil cs hne
  exact List.all_eq_false.2 ⟨c, hc, by simp [h c hc]⟩

/-- Characters other than white space are one word. -/
theorem words_of_not_isWhite (hne : cs ≠ []) (h : ∀ c ∈ cs, Unicode.isWhite c = false) :
    words cs = [String.ofList cs] := by
  rw [words, splitBy_of_not_isWhite hne h]
  simp [all_isWhite_eq_false hne h]

/-- A space separates two words. -/
theorem words_append (hcs : cs ≠ []) (hc : ∀ c ∈ cs, Unicode.isWhite c = false) (hds : ds ≠ [])
    (hd : ∀ d ∈ ds, Unicode.isWhite d = false) :
    words (cs ++ ' ' :: ds) = [String.ofList cs, String.ofList ds] := by
  have hblank : Unicode.isWhite ' ' = true := by decide +kernel
  have hafter : (' ' :: ds).splitBy sameRun = [[' '], ds] := by
    have hsplit := List.splitBy_append (r := sameRun) (l := [' ']) (m := ds) fun x hx y hy => by
      simp at hx
      subst hx
      simp [sameRun, hblank, hd y (List.mem_of_mem_head? hy)]
    rw [splitBy_of_not_isWhite hds hd] at hsplit
    exact hsplit
  have hbefore : (cs ++ ' ' :: ds).splitBy sameRun = [cs, [' '], ds] := by
    rw [List.splitBy_append fun x hx y hy => by
      simp at hy
      subst hy
      simp [sameRun, hblank, hc x (List.mem_of_getLast? hx)], hafter,
        splitBy_of_not_isWhite hcs hc]
    rfl
  rw [words, hbefore]
  simp [hblank, all_isWhite_eq_false hcs hc, all_isWhite_eq_false hds hd]

end Words

/-! ## Lines -/

/-- Whether there is no white space in a text. -/
def isSolid (s : String) : Bool :=
  s.toList.all fun c => !Unicode.isWhite c

theorem isSolid_iff {s : String} :
    isSolid s = true ↔ ∀ c ∈ s.toList, Unicode.isWhite c = false := by
  simp [isSolid]

/-- A request that can be put as a line. -/
def IsPlain (path method : String) : Prop :=
  path ≠ "" ∧ isSolid path = true ∧ isSolid method = true

/-- The line for a request. -/
def requestLine (path method : String) : String :=
  if method = "" then path else method ++ " " ++ path

/-- The lines for some requests. -/
def inputText (requests : List (String × String)) : String :=
  String.join (requests.map fun r => requestLine r.1 r.2 ++ "\n")

theorem readRequest?_requestLine {path method : String} (h : IsPlain path method) :
    readRequest? (requestLine path method).toList = some (path, method) := by
  obtain ⟨hne, hpath, hmethod⟩ := h
  rw [isSolid_iff] at hpath hmethod
  have hcs : path.toList ≠ [] := mt String.toList_eq_nil_iff.1 hne
  by_cases hempty : method = ""
  · rw [requestLine, if_pos hempty, readRequest?, words_of_not_isWhite hcs hpath,
      String.ofList_toList]
    exact congrArg (fun m => some (path, m)) hempty.symm
  · have hms : method.toList ≠ [] := mt String.toList_eq_nil_iff.1 hempty
    have hline : (requestLine path method).toList = method.toList ++ ' ' :: path.toList := by
      simp [requestLine, hempty]
    rw [hline, readRequest?, words_append hms hmethod hcs hpath, String.ofList_toList,
      String.ofList_toList]

/-- There is no line break in the line. -/
theorem newLine_notMem_requestLine {path method : String} (h : IsPlain path method) :
    '\n' ∉ (requestLine path method).toList := by
  obtain ⟨-, hpath, hmethod⟩ := h
  have hwhite : Unicode.isWhite '\n' = true := by decide +kernel
  have hsolid : ∀ s, isSolid s = true → '\n' ∉ s.toList := by
    intro s hs hmem
    rw [isSolid_iff.1 hs '\n' hmem] at hwhite
    cases hwhite
  rw [requestLine]
  split
  · exact hsolid path hpath
  · simp [hsolid path hpath, hsolid method hmethod]

/-- Lines of requests are read as the requests, in their order. -/
theorem readRequests_inputText {requests : List (String × String)}
    (h : ∀ r ∈ requests, IsPlain r.1 r.2) : readRequests (inputText requests) = requests := by
  induction requests with
  | nil => rfl
  | cons r rs ih =>
      rw [List.forall_mem_cons] at h
      have htext : (inputText (r :: rs)).toList =
          (requestLine r.1 r.2).toList ++ '\n' :: (inputText rs).toList := by
        simp [inputText, String.join_cons]
      rw [readRequests, htext,
        List.splitOn_append_cons_self_of_not_mem (newLine_notMem_requestLine h.1),
        List.filterMap_cons_some (readRequest?_requestLine h.1)]
      exact congrArg (r :: ·) (ih h.2)

/-! ## Arguments -/

theorem eq_of_read_eq_plain {options : List OptionName} {arg text : String}
    (h : Argument.read options arg = .plain text) : text = arg := by
  unfold Argument.read at h
  dsimp only at h
  split at h
  · cases h
  · split at h <;> cases h
  · split at h <;> cases h
  · cases h
    rfl

theorem mem_of_read_eq_option {options : List OptionName} {arg : String} {name : OptionName}
    {attached : Option String} (h : Argument.read options arg = .option name attached) :
    name ∈ options := by
  unfold Argument.read at h
  dsimp only at h
  split at h
  · cases h
  · split at h
    · cases h
    next hfind =>
      cases h
      exact List.mem_of_find?_eq_some hfind
  · split at h
    · cases h
    next hfind =>
      cases h
      exact List.mem_of_find?_eq_some hfind
  · cases h

/-- The options of a request. -/
abbrev queryOptions : List OptionName :=
  [methodOption, noCacheOption]

/-- The arguments behind the name of the command. -/
abbrev queryArguments (path method : String) (ignoreCache : Bool) : List String :=
  path :: "--method" :: method :: if ignoreCache then ["--no-cache"] else []

/-- The arguments for a request to be answered with a route file. -/
def queryLine (config path method : String) (ignoreCache : Bool) : List String :=
  "--config" :: config :: "match" :: queryArguments path method ignoreCache

/-- The path is a plain argument, and the method does not look like an option. -/
def Accepts (path method : String) : Prop :=
  Argument.read queryOptions path = .plain path ∧ Arguments.isValue method = true

variable {config path method : String} {ignoreCache : Bool}

/-- The method is read, whatever has been read before. -/
theorem read_method (a : Arguments) (method : String) (args : List String) :
    Arguments.read queryOptions a ("--method" :: method :: args) =
      if Arguments.isValue method = true then
        (a.addOption methodOption method).bind fun a =>
          Arguments.read queryOptions a args else none := by
  have hname : Argument.read queryOptions "--method" = .option methodOption none := by decide
  exact Arguments.read_of_separate hname rfl

theorem read_noCache (a : Arguments) (args : List String) :
    Arguments.read queryOptions a ("--no-cache" :: args) =
      (a.addOption noCacheOption "").bind fun a => Arguments.read queryOptions a args := by
  have hflag : Argument.read queryOptions "--no-cache" = .option noCacheOption none := by decide
  exact Arguments.read_of_flag hflag rfl

/-- What the arguments of a request come to. -/
theorem readAction_of_read {args : List String}
    (h : Arguments.read queryOptions {} args =
      some ⟨("method", method) :: (if ignoreCache then [("no-cache", "")] else []), [path]⟩) :
    readAction "match" args = some (.query path method ignoreCache) := by
  show (Arguments.read queryOptions {} args).bind _ = _
  rw [h]
  cases ignoreCache <;> rfl

theorem readAction_of_accepts (h : Accepts path method) (ignoreCache : Bool) :
    readAction "match" (queryArguments path method ignoreCache) =
      some (.query path method ignoreCache) := by
  obtain ⟨hpath, hmethod⟩ := h
  refine readAction_of_read ?_
  rw [queryArguments, Arguments.read_of_plain hpath, read_method, if_pos hmethod]
  cases ignoreCache with
  | false => rfl
  | true => exact read_noCache ⟨[("method", method)], [path]⟩ []

/-- No other path and no other method is read. -/
theorem accepts_of_readAction {action : Action}
    (h : readAction "match" (queryArguments path method ignoreCache) = some action) :
    Accepts path method := by
  change (Arguments.read queryOptions {} (queryArguments path method ignoreCache)).bind _ = _ at h
  rw [queryArguments] at h
  cases hpath : Argument.read queryOptions path with
  | unknown =>
      rw [Arguments.read_of_unknown hpath] at h
      cases h
  | endOfOptions =>
      -- everything behind the dashes is plain, and a path alone is asked for
      rw [Arguments.read_of_endOfOptions hpath] at h
      cases h
  | plain text =>
      rw [Arguments.read_of_plain hpath] at h
      cases eq_of_read_eq_plain hpath
      refine ⟨hpath, ?_⟩
      by_contra hmethod
      rw [read_method, if_neg hmethod] at h
      cases h
  | option name attached =>
      rcases List.mem_pair.1 (mem_of_read_eq_option hpath) with rfl | rfl
      · cases attached with
        | none =>
            -- the name of the next option is no value
            have hvalue : Arguments.isValue "--method" ≠ true := by decide
            rw [Arguments.read_of_separate hpath rfl, if_neg hvalue] at h
            cases h
        | some value =>
            -- the method would be given twice
            rw [Arguments.read_of_attached hpath rfl] at h
            change (Arguments.read queryOptions ⟨[("method", value)], []⟩
              ("--method" :: method :: _)).bind _ = _ at h
            rw [read_method] at h
            split at h <;> cases h
      · cases attached with
        | some value =>
            rw [Arguments.read_of_surplus hpath rfl] at h
            cases h
        | none =>
            rw [Arguments.read_of_flag hpath rfl] at h
            change (Arguments.read queryOptions ⟨[("no-cache", "")], []⟩
              ("--method" :: method :: _)).bind _ = _ at h
            rw [read_method] at h
            split at h
            · cases ignoreCache with
              | false =>
                  -- there is no path
                  cases h
              | true =>
                  -- the flag would be given twice
                  change (Arguments.read queryOptions ⟨[("no-cache", ""), ("method", method)], []⟩
                    ["--no-cache"]).bind _ = _ at h
                  rw [read_noCache] at h
                  cases h
            · cases h

/-- A call with a route file is read if what follows the name of the command is. -/
theorem read_of_readLeading {line args : List String} {name : String} (hconfig : config ≠ "")
    (h : Arguments.readLeading [configOption] {} line =
      some (⟨[("config", config)], []⟩, name, args)) :
    read line = (readAction name args).map (Command.mk config) := by
  have hfile : fileValue (some config) = some (some config) := by simp [fileValue, hconfig]
  rw [read, h]
  show (fileValue (some config) >>= fun _ => _) = _
  rw [hfile]
  cases readAction name args <;> rfl

theorem read_queryLine_eq (config path method : String) (ignoreCache : Bool) :
    read (queryLine config path method ignoreCache) =
      if Arguments.isValue config = true ∧ config ≠ "" then
        (readAction "match" (queryArguments path method ignoreCache)).map (Command.mk config)
      else none := by
  have hname : Argument.read [configOption] "--config" = .option configOption none := by decide
  have hcommand : Argument.read [configOption] "match" = .plain "match" := by decide
  have hleading :
      Arguments.readLeading [configOption] {} (queryLine config path method ignoreCache) =
      if Arguments.isValue config = true then
        some (⟨[("config", config)], []⟩, "match",
          queryArguments path method ignoreCache) else none := by
    have hadd : ({} : Arguments).addOption configOption config = some ⟨[("config", config)], []⟩ :=
      rfl
    rw [queryLine, Arguments.readLeading, hname]
    show (if Arguments.isValue config =
        true then (({} : Arguments).addOption configOption config).bind _
      else none) = _
    rw [hadd, Option.bind_some, Arguments.readLeading, hcommand]
  by_cases hvalue : Arguments.isValue config = true
  · rw [if_pos hvalue] at hleading
    by_cases hempty : config = ""
    · rw [read, hleading]
      simp [hempty, Arguments.value?, fileValue]
    · rw [if_pos ⟨hvalue, hempty⟩, read_of_readLeading hempty hleading]
  · rw [read, hleading]
    simp [hvalue]

/-- If the arguments are accepted, they are read as the request; the flag makes no difference to
that. -/
theorem read_queryLine {c : Command} (h : read (queryLine config path method false) = some c)
    (ignoreCache : Bool) :
    read (queryLine config path method ignoreCache) =
      some ⟨config, .query path method ignoreCache⟩ := by
  rw [read_queryLine_eq] at h ⊢
  split at h
  next hconfig =>
    cases haction : readAction "match" (queryArguments path method false) with
    | none =>
        rw [haction] at h
        cases h
    | some action =>
        have haccepts := accepts_of_readAction haction
        rw [if_pos hconfig, readAction_of_accepts haccepts]
        rfl
  · cases h

/-! ## Arguments that are always accepted -/

/-- A value that is attached to the long name of an option is read as it is. -/
theorem read_attached {options : List OptionName} {name : OptionName} {arg value : String}
    (harg : arg.toList = '-' :: '-' :: (name.long.toList ++ '=' :: value.toList))
    (hequals : '=' ∉ name.long.toList)
    (hfind : (options.find? fun o => o.long == name.long) = some name) :
    Argument.read options arg = .option name (some value) := by
  have hname : ∀ c ∈ name.long.toList, (c != '=') = true := by
    intro c hc
    rw [bne_iff_ne]
    rintro rfl
    exact hequals hc
  have hlong : (name.long.toList ++ '=' :: value.toList).takeWhile (· != '=') =
      name.long.toList := by
    rw [List.takeWhile_append_of_pos hname]
    simp
  have hvalue : (name.long.toList ++ '=' :: value.toList).dropWhile (· != '=') =
      '=' :: value.toList := by
    rw [List.dropWhile_append_of_pos hname]
    simp
  obtain ⟨c, cs, hcs⟩ : ∃ c cs, name.long.toList ++ '=' :: value.toList = c :: cs :=
    List.exists_cons_of_ne_nil (by simp)
  rw [hcs] at hlong hvalue harg
  have hfind' : (options.find? fun o => o.long == String.ofList ((c :: cs).takeWhile (· != '='))) =
      some name := by
    rw [hlong, String.ofList_toList, hfind]
  rw [Argument.read, harg]
  simp only [hfind', hvalue, Argument.attachedLong, String.ofList_toList]

/-- The arguments behind the name of the command.  The method is attached to its option, and the
path stands behind two dashes. -/
abbrev guardedArguments (path method : String) (ignoreCache : Bool) : List String :=
  ("--method=" ++ method) :: if ignoreCache then ["--no-cache", "--", path] else ["--", path]

/-- The arguments for a request to be answered with a route file, whatever its path and its method
look like. -/
def guardedQueryLine (config path method : String) (ignoreCache : Bool) : List String :=
  ("--config=" ++ config) :: "match" :: guardedArguments path method ignoreCache

theorem readAction_guarded (path method : String) (ignoreCache : Bool) :
    readAction "match" (guardedArguments path method ignoreCache) =
      some (.query path method ignoreCache) := by
  have hmethod : Argument.read queryOptions ("--method=" ++ method) =
      .option methodOption (some method) :=
    read_attached (by rw [String.toList_append]; rfl) (by decide) (by decide)
  -- whatever stands behind the two dashes is plain
  have hend : Argument.read queryOptions "--" = .endOfOptions := by decide
  refine readAction_of_read ?_
  rw [guardedArguments, Arguments.read_of_attached hmethod rfl]
  show (some ⟨[("method", method)], []⟩ : Option Arguments).bind _ = _
  rw [Option.bind_some]
  cases ignoreCache with
  | false => exact Arguments.read_of_endOfOptions hend
  | true => exact read_noCache ⟨[("method", method)], []⟩ ["--", path]

/-- Every path and every method can be asked for. -/
theorem read_guardedQueryLine (hconfig : config ≠ "") (path method : String) (ignoreCache : Bool) :
    read (guardedQueryLine config path method ignoreCache) =
      some ⟨config, .query path method ignoreCache⟩ := by
  have hattached : Argument.read [configOption] ("--config=" ++ config) =
      .option configOption (some config) :=
    read_attached (by rw [String.toList_append]; rfl) (by decide) (by decide)
  have hcommand : Argument.read [configOption] "match" = .plain "match" := by decide
  have hleading : Arguments.readLeading [configOption] {}
      (guardedQueryLine config path method ignoreCache) =
      some (⟨[("config", config)], []⟩, "match", guardedArguments path method ignoreCache) := by
    rw [guardedQueryLine, Arguments.readLeading, hattached]
    show (some ⟨[("config", config)], []⟩ : Option Arguments).bind _ = _
    rw [Option.bind_some, Arguments.readLeading, hcommand]
  rw [read_of_readLeading hconfig hleading, readAction_guarded, Option.map_some]

end PathRouter.Command
