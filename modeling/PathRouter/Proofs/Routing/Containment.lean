import PathRouter.Proofs.Pattern.Acceptance
import PathRouter.Proofs.Pattern.Alternatives
import PathRouter.Proofs.Pattern.Groups
import PathRouter.Proofs.Routing.Registering

/-!
# Routes inside groups

The stem of a group is quoted and comes first in the expression of every route inside it, right
after the start of the text.  So the first alternative of the expression recognises only paths
under the stem.  Other alternatives come from the name of a placeholder that ends its group early
and goes on with a bar, and whatever they match is recognised, too.

* `Registration.isSome_matchPath_iff` — paths that are not under the stem are left to other
  alternatives;
* `Registration.otherAlternatives_eq_nil` — there are none without such names;
* `Session.routes_contained_iff` — when the routes that a run registers stay inside their groups.
-/

namespace PathRouter

open Regex

variable {α : Type}

/-- The alternatives of the expression of a route after the first one. -/
def CompiledRoute.otherAlternatives (c : CompiledRoute α) : List Node :=
  match c.matcher with
  | .literal => []
  | .pattern p => (alternatives p.regex.source.toList).tail

namespace Registration

variable {r : Registration α} {c : CompiledRoute α}

/-- The path of a registered route is the stem and the path that was given, unless both are
empty. -/
theorem path_registered (r : Registration α) :
    r.registered.path.toList = r.stem.toList ++ r.route.path.toList ∨
      r.stem = "" ∧ r.route.path = "" ∧ r.registered.path = "/" := by
  show (fullPath r.stems r.route.path).toList = _ ∨ _ ∧ _ ∧ fullPath r.stems r.route.path = _
  rw [fullPath]
  show (if (r.stem ++ r.route.path).isEmpty = true then "/" else r.stem ++ r.route.path).toList =
      _ ∨
    _ ∧ _ ∧ (if (r.stem ++ r.route.path).isEmpty = true then "/" else r.stem ++ r.route.path) = _
  split
  next hempty =>
    rw [String.isEmpty_iff, String.append_eq_empty_iff] at hempty
    exact Or.inr ⟨hempty.1, hempty.2, rfl⟩
  · exact Or.inl String.toList_append

/-- A route in a group recognises a path that does not start with the stem exactly if one of the
other alternatives of its expression matches the path. -/
theorem isSome_matchPath_iff (hstem : '\x7B' ∉ r.stem.toList) (hc : r.registered.compile = .ok c)
    {path : String} (hout : ¬ r.stem.toList <+: path.toList) :
    (c.matchPath path).isSome = true ↔ ∃ n ∈ c.otherAlternatives, n.Matches path.toList := by
  obtain ⟨hroute, hcompile⟩ := Route.of_compile_eq_ok hc
  rcases r.path_registered with hpath | ⟨hempty, -⟩
  · cases hmatcher : c.matcher with
    | literal =>
        have hne : c.path ≠ path := by
          rintro rfl
          rw [show c.path = r.registered.path from congrArg Route.path hroute, hpath] at hout
          exact hout (List.prefix_append _ _)
        simp [CompiledRoute.matchPath, CompiledRoute.otherAlternatives, hmatcher, hne]
    | pattern p =>
        rw [hmatcher] at hcompile
        simp only [CompiledRoute.matchPath, CompiledRoute.otherAlternatives, hmatcher]
        exact CompiledPattern.isSome_captures?_iff_of_not_isPrefix hcompile hstem hpath hout
  · rw [hempty] at hout
    exact absurd List.nil_prefix hout

/-- If no name has a closing angle bracket in it, then there are no other alternatives. -/
theorem otherAlternatives_eq_nil (hstem : '\x7B' ∉ r.stem.toList)
    (hc : r.registered.compile = .ok c)
    (hclose : ∀ q ∈ (Template.scan r.route.path.toList).placeholders, '>' ∉ q.name) :
    c.otherAlternatives = [] := by
  obtain ⟨-, hcompile⟩ := Route.of_compile_eq_ok hc
  unfold CompiledRoute.otherAlternatives
  split
  · rfl
  next p hmatcher =>
    rw [hmatcher] at hcompile
    have hplaceholders : ∀ q ∈ (Template.scan r.registered.path.toList).placeholders,
        '>' ∉ q.name := by
      rcases r.path_registered with hpath | ⟨-, -, hpath⟩
      · rw [hpath, Template.scan_append hstem, Template.placeholders, List.filterMap_append]
        intro q hq
        rcases List.mem_append.1 hq with hq | hq
        · obtain ⟨x, hx, hq⟩ := List.mem_filterMap.1 hq
          obtain ⟨d, -, rfl⟩ := List.mem_map.1 hx
          cases hq
        · exact hclose q hq
      · rw [hpath]
        decide +kernel
    obtain ⟨-, -, -, hof⟩ := of_compilePath_eq_pattern hcompile rfl
    obtain ⟨hwell, -⟩ := CompiledPattern.wellNamed_and_node_eq hcompile rfl hplaceholders
    rw [hof.source, Template.anchored, String.toList_ofList]
    exact Template.tail_alternatives_of_wellNamed hwell

end Registration

/-- A run registers routes, each with the stems of the groups around it in front of its path.  If
there is no opening brace in the stems, then a route recognises only paths that start with them
exactly if the other alternatives of its expression match only such paths.  Without closing angle
brackets in the names of its placeholders there are no other alternatives.  The session at the
start may be any one in which no group is open on the table. -/
theorem Session.routes_contained_iff [ToJson α] [FromJson α] {s : Session α}
    (hs : s.table.stems = []) {steps : List (Step α)}
    (hkeeps : ∀ step ∈ steps, step.keepsTable = true) :
    (s.run steps).value.1.table.routes =
        s.table.routes ++ (Ledger.run {} steps).registrations.map Registration.registered ∧
      ∀ r ∈ (Ledger.run {} steps).registrations, '\x7B' ∉ r.stem.toList →
        ∀ c, r.registered.compile = .ok c →
          ((∀ path : String, (c.matchPath path).isSome = true → r.stem.toList <+: path.toList) ↔
            ∀ n ∈ c.otherAlternatives, ∀ path : String,
              n.Matches path.toList → r.stem.toList <+: path.toList) ∧
          ((∀ q ∈ (Template.scan r.route.path.toList).placeholders, '>' ∉ q.name) →
            c.otherAlternatives = []) := by
  refine ⟨routes_run hs hkeeps, fun r _ hstem c hc =>
    ⟨⟨?_, ?_⟩, r.otherAlternatives_eq_nil hstem hc⟩⟩
  · intro hcontained n hn path hmatch
    by_contra hout
    exact hout (hcontained path ((r.isSome_matchPath_iff hstem hc hout).2 ⟨n, hn, hmatch⟩))
  · intro hothers path hpath
    by_contra hout
    obtain ⟨n, hn, hmatch⟩ := (r.isSome_matchPath_iff hstem hc hout).1 hpath
    exact hout (hothers n hn path hmatch)

/-! ## A name with a bar -/

/-- A placeholder whose name ends its group early and goes on with a second alternative. -/
def barPlaceholder : Placeholder where
  name := "a>x)|(?P<b".toList
  key := none

/-- Steps that register a route for that placeholder in a group. -/
def barSteps : List (Step String) :=
  [.openGroup "/admin", .add "\x7Ba>x)|(?P<b\x7D" "t" .any, .closeGroup]

theorem scan_bar : Template.scan "/admin\x7Ba>x)|(?P<b\x7D".toList =
    "/admin".toList.map .char ++ [.placeholder barPlaceholder] := by
  have hp : barPlaceholder.Writable := by decide
  have htext :
      "/admin\x7Ba>x)|(?P<b\x7D".toList = "/admin".toList ++ (barPlaceholder.text ++ []) := by
    decide
  rw [htext, Template.scan_append (by decide), Template.scan_text_append hp, Template.scan]

/-- The alternatives that its expression is read as. -/
def barAlternatives : List Node :=
  [.ofParts (.anchor .textStart :: ("/admin".toList.map (fun c => .set (.single c)) ++
      [.capture 1 (some "a") (.set (.single 'x'))])),
    .ofParts [.capture 2 (some "b") (Assertion.node .segment), .anchor .textEnd]]

/-- The name is read as the end of a group, a bar and the start of another group. -/
theorem parse_bar :
    Node.parse "^/admin(?P<a>x)|(?P<b>[^/]+)$".toList = .ok (.choice barAlternatives) := by
  have ha : isGroupName ['a'] = true := State.isGroupName_of_isLower (by decide) (by decide)
  have hb : isGroupName ['b'] = true := State.isGroupName_of_isLower (by decide) (by decide)
  let second : Placeholder := { name := ['b'], key := none }
  have hreads :
      State.Reads {} ('^' :: ([] ++ (quote "/admin".toList ++ (("(?P<".toList ++ ['a'] ++ ['>']) ++
      (quote ['x'] ++ (')' :: ([] ++ ('|' :: ([] ++ (second.group .segment ++ ['$'])))))))))) _ :=
    State.Reads.step rfl (fun _ => rfl) ((State.reads_quote _ rfl).append
      ((State.reads_open rfl ha (by decide)).append ((State.reads_quote _ rfl).append
        (State.Reads.step rfl (fun _ => rfl) (State.Reads.step rfl (fun _ => rfl)
          ((State.reads_group rfl second .segment hb (by decide)).append
            (State.reads_of_step (u := []) rfl fun _ => rfl)))))))
  have hrun : State.run "^/admin(?P<a>x)|(?P<b>[^/]+)$".toList.length {}
      "^/admin(?P<a>x)|(?P<b>[^/]+)$".toList =
        .ok { node := .choice barAlternatives, depth := 5 } :=
    hreads.run_eq
  rw [Node.parse_of_run hrun (by decide), if_neg (by decide +kernel)]

theorem compilePath_bar : ∃ p, compilePath "/admin\x7Ba>x)|(?P<b\x7D" = .ok (.pattern p) ∧
    p.regex.node = .choice barAlternatives := by
  have hanchored : Template.anchored ("/admin".toList.map .char ++ [.placeholder barPlaceholder]) =
      "^/admin(?P<a>x)|(?P<b>[^/]+)$" := by decide
  rw [compilePath_eq scan_bar (by decide) (by decide) (by decide), hanchored,
    Regex.ofString_of_parse_ok parse_bar]
  exact ⟨_, rfl, rfl⟩

/-- The route in the group recognises a path outside of it, by way of another alternative. -/
theorem exists_route_not_contained : ∃ c : CompiledRoute String,
    (({} : Session String).run barSteps).value.1.table.routes.map Route.compile = [.ok c] ∧
      (c.matchPath "zzz").isSome = true ∧ ¬ "/admin".toList <+: "zzz".toList ∧
      ∃ n ∈ c.otherAlternatives, ∃ path : String,
        n.Matches path.toList ∧ ¬ "/admin".toList <+: path.toList := by
  obtain ⟨p, hp, hnode⟩ := compilePath_bar
  let r : Registration String :=
    { stems := ["/admin"],
      route := { path := "\x7Ba>x)|(?P<b\x7D", methods := .any, target := "t" } }
  let c : CompiledRoute String :=
    { path := r.registered.path, methods := .any, target := "t", matcher := .pattern p }
  have hc : r.registered.compile = .ok c := Route.compile_of_ok hp
  obtain ⟨hroutes, hcontained⟩ :=
    @Session.routes_contained_iff String _ _ {} rfl barSteps (by decide)
  obtain ⟨hiff, -⟩ := hcontained r (List.mem_singleton.2 rfl) (by decide) c hc
  have hout : ¬ "/admin".toList <+: "zzz".toList := by decide
  have hmatch : (p.captures? "zzz").isSome = true := by
    rw [CompiledPattern.captures?, Option.isSome_map, Regex.search, hnode]
    decide +kernel
  refine ⟨c, ?_, hmatch, hout, ?_⟩
  · rw [hroutes]
    exact congrArg (fun x => [x]) hc
  · by_contra hnone
    refine hout (hiff.2 (fun n hn path hpath => ?_) "zzz" hmatch)
    by_contra hpath'
    exact hnone ⟨n, hn, path, hpath, hpath'⟩

end PathRouter
