import Mathlib
import PathTemplate.Proofs.Compilation
import PathTemplate.Proofs.Mount.Chain
import PathTemplate.Proofs.Registry.Run
import PathTemplate.Proofs.Text.Quoted

/-!
# The journal of a run

What a run leaves in the journal is what its requests leave there, one after the other, and each of
them leaves what its reply says.  A compiled template is entered with its size, after a warning if
defaults are of no use to it; a rendering is entered once, with the path or the missing variables
that it has returned and with the pattern of the mount that was rendered, however long its chain is;
nothing else is entered.
-/

namespace PathTemplate

/-- An entry of the journal as it is written. -/
structure Line where
  level : String
  message : String
  fields : List (String × Event.Field)
  deriving Repr, DecidableEq

namespace Line

def unusedDefaults (raw : String) (unused : List String) : Line :=
  ⟨"WARN", "ignoring defaults for undeclared variables",
    [("raw_path", .text raw), ("unused", .names unused)]⟩

def compiled (raw : String) (pattern : Pattern) (declared : Variables) : Line :=
  ⟨"DEBUG", "compiled url mount",
    [("raw_path", .text raw), ("segments", .count pattern.length),
      ("required", .count declared.required.length),
      ("optional", .count declared.optional.length)]⟩

def rendered (raw path : String) : Line :=
  ⟨"TRACE", "rendered url mount", [("raw_path", .text raw), ("path", .text path)]⟩

def missingVariables (raw : String) (names : List String) : Line :=
  ⟨"DEBUG", "url mount missing required variables",
    [("raw_path", .text raw), ("missing", .names names)]⟩

end Line

def Event.line (event : Event) : Line :=
  ⟨event.level, event.message, event.fields⟩

def Outcome.lines (outcome : Outcome) : List Line :=
  outcome.events.map Event.line

/-- The ids that a request reads. -/
def Request.read : Request → List String
  | .create _ _ _ _ => []
  | .attach id parent => [id, parent]
  | .copy id _ => [id]
  | .render id _ => [id]
  | .renderAlone id _ => [id]
  | .ancestors id => [id]
  | .describe id => [id]

namespace Registry

/-- The lines that belong to a request and its reply, as the registry stands before the request. -/
inductive Logs (registry : Registry) : Request → Reply → List Line → Prop
  | refused {id raw : String} {defaults : Bindings} {settings : Settings} {error : CompileError}
      (hcompile : Template.compile raw defaults settings = .error error) :
      Logs registry (.create id raw defaults settings) (.refused error) []
  | created {id raw : String} {defaults : Bindings} {settings : Settings} {template : Template}
      (hcompile : Template.compile raw defaults settings = .ok template)
      (hused : ∀ name ∈ defaults, name ∈ template.pattern.names) :
      Logs registry (.create id raw defaults settings) (.created (.root template))
        [.compiled raw template.pattern template.declared]
  | createdWithUnused {id raw : String} {defaults : Bindings} {settings : Settings}
      {template : Template} {unused : List String}
      (hcompile : Template.compile raw defaults settings = .ok template)
      (hunused : ∃ name ∈ defaults, name ∉ template.pattern.names)
      (hreject : Template.compile raw defaults { settings with policy := .reject } =
        .error (.undeclaredDefaults unused)) :
      Logs registry (.create id raw defaults settings) (.created (.root template))
        [.unusedDefaults raw unused, .compiled raw template.pattern template.declared]
  | rendered {id path : String} {bindings : Bindings} {mount : Mount}
      (hmount : registry[id]? = some mount) (hpath : mount.render bindings = .ok path) :
      Logs registry (.render id bindings) (.path path) [.rendered mount.template.raw path]
  | lacking {id : String} {bindings : Bindings} {mount : Mount} {missing : MissingVariables}
      (hmount : registry[id]? = some mount) (hmissing : mount.render bindings = .error missing) :
      Logs registry (.render id bindings) (.missing missing)
        [.missingVariables mount.template.raw missing.names]
  | renderedAlone {id : String} {bindings : Bindings} {mount : Mount}
      (hmount : registry[id]? = some mount) :
      Logs registry (.renderAlone id bindings) (.ofRendering (mount.renderAlone bindings)) []
  | attached {id parent : String} {own outer : Mount} (hown : registry[id]? = some own)
      (houter : registry[parent]? = some outer) :
      Logs registry (.attach id parent) (.lineage (own.attach outer).ancestors) []
  | copied {id target : String} {mount : Mount} (hmount : registry[id]? = some mount) :
      Logs registry (.copy id target) (.copied mount) []
  | lineage {id : String} {mount : Mount} (hmount : registry[id]? = some mount) :
      Logs registry (.ancestors id) (.lineage mount.ancestors) []
  | described {id : String} {mount : Mount} (hmount : registry[id]? = some mount) :
      Logs registry (.describe id) (.description mount) []
  | unknown {request : Request} {id : String} (hread : id ∈ request.read)
      (habsent : registry[id]? = none) : Logs registry request .unknownMount []

/-- Compiling makes the entries that belong to the way in which it ends. -/
theorem logs_create (registry : Registry) (id raw : String) (defaults : Bindings)
    (settings : Settings) :
    let outcome := (registry.step (.create id raw defaults settings)).2
    registry.Logs (.create id raw defaults settings) outcome.reply outcome.lines := by
  intro outcome
  cases hparse : Pattern.parse raw with
  | error fault =>
      have hcompile := Template.compile_of_parse_eq_error hparse defaults settings
      have houtcome : outcome = .quiet (.refused (.malformed fault)) := by
        simp only [outcome, step_create_of_error hcompile,
          Template.compileLogged_of_parse_eq_error hparse, Outcome.quiet]
      rw [houtcome]
      exact .refused hcompile
  | ok pattern =>
      have hlogged := Template.compileLogged_of_parse_eq_ok hparse defaults settings
      have hcompile := Template.compile_of_unusedIn hparse defaults settings
      simp only [Template.undeclared_eq] at hlogged
      by_cases hunused : defaults.unusedIn pattern = []
      · rw [if_pos hunused] at hlogged
        rw [if_neg (fun hrefused => hrefused.1 hunused)] at hcompile
        simp only [outcome, step_create_of_ok hcompile, hlogged]
        apply Logs.created hcompile
        intro name hname
        by_contra hnone
        have hmem := Bindings.mem_unusedIn.mpr ⟨hname, hnone⟩
        rw [hunused] at hmem
        cases hmem
      · rw [if_neg hunused] at hlogged
        by_cases hpolicy : settings.policy = .reject
        · rw [if_pos hpolicy] at hlogged
          rw [if_pos ⟨hunused, hpolicy⟩] at hcompile
          simp only [outcome, step_create_of_error hcompile, hlogged]
          exact .refused hcompile
        · rw [if_neg hpolicy] at hlogged
          rw [if_neg (fun hrefused => hpolicy hrefused.2)] at hcompile
          simp only [outcome, step_create_of_ok hcompile, hlogged]
          rcases List.exists_mem_of_ne_nil _ hunused with ⟨name, hmem⟩
          exact .createdWithUnused hcompile ⟨name, Bindings.mem_unusedIn.mp hmem⟩
            (Template.compile_reject hcompile hunused)

theorem logs_query {registry : Registry} {request : Request} {id : String}
    {answer : Mount → Outcome} (hread : id ∈ request.read)
    (hanswer : ∀ mount, registry[id]? = some mount →
      registry.Logs request (answer mount).reply (answer mount).lines) :
    let outcome := (registry.query id answer).2
    registry.Logs request outcome.reply outcome.lines := by
  intro outcome
  cases hmount : registry[id]? with
  | none =>
      have houtcome : outcome = .quiet .unknownMount := by simp only [outcome, query, hmount]
      rw [houtcome]
      exact .unknown hread hmount
  | some mount =>
      have houtcome : outcome = answer mount := by simp only [outcome, query, hmount]
      rw [houtcome]
      exact hanswer mount hmount

theorem logs_step (registry : Registry) (request : Request) :
    let outcome := (registry.step request).2
    registry.Logs request outcome.reply outcome.lines := by
  intro outcome
  cases request with
  | create id raw defaults settings => exact registry.logs_create id raw defaults settings
  | attach id parent =>
      cases hown : registry[id]? with
      | none =>
          have houtcome : outcome = .quiet .unknownMount := by simp only [outcome, step, hown]
          rw [houtcome]
          exact .unknown List.mem_cons_self hown
      | some own =>
          cases houter : registry[parent]? with
          | none =>
              have houtcome : outcome = .quiet .unknownMount := by
                simp only [outcome, step, hown, houter]
              rw [houtcome]
              exact .unknown (List.mem_cons_of_mem id List.mem_cons_self) houter
          | some outer =>
              have houtcome : outcome = .quiet (.lineage (own.attach outer).ancestors) := by
                simp only [outcome, step, hown, houter]
              rw [houtcome]
              exact .attached hown houter
  | copy id target =>
      cases hmount : registry[id]? with
      | none =>
          have houtcome : outcome = .quiet .unknownMount := by simp only [outcome, step, hmount]
          rw [houtcome]
          exact .unknown List.mem_cons_self hmount
      | some mount =>
          have houtcome : outcome = .quiet (.copied mount) := by
            simp only [outcome, step, hmount]
          rw [houtcome]
          exact .copied hmount
  | render id bindings =>
      apply logs_query List.mem_cons_self
      intro mount hmount
      change registry.Logs _ (.ofRendering (mount.render bindings))
        ((mount.renderLogged bindings).run.events.map Event.line)
      rw [mount.events_renderLogged]
      cases hresult : mount.render bindings with
      | ok path => exact .rendered hmount hresult
      | error missing => exact .lacking hmount hresult
  | renderAlone id bindings =>
      exact logs_query List.mem_cons_self fun mount hmount => .renderedAlone hmount
  | ancestors id => exact logs_query List.mem_cons_self fun mount hmount => .lineage hmount
  | describe id => exact logs_query List.mem_cons_self fun mount hmount => .described hmount

/-! ## Whole runs -/

def replies (registry : Registry) (requests : List Request) : List Reply :=
  (registry.run requests).2.map Outcome.reply

/-- All lines that a run writes. -/
def log (registry : Registry) (requests : List Request) : List Line :=
  (registry.run requests).2.flatMap Outcome.lines

theorem run_append (registry : Registry) (before after : List Request) :
    (registry.run (before ++ after)).2 =
      (registry.run before).2 ++ ((registry.final before).run after).2 := by
  induction before generalizing registry with
  | nil => rfl
  | cons request rest ih => exact congrArg _ (ih _)

theorem length_run (registry : Registry) (requests : List Request) :
    (registry.run requests).2.length = requests.length := by
  induction requests generalizing registry with
  | nil => rfl
  | cons request rest ih => exact congrArg _ (ih _)

theorem getElem?_run (registry : Registry) (before after : List Request) (request : Request) :
    (registry.run (before ++ request :: after)).2[before.length]? =
      some ((registry.final before).step request).2 := by
  rw [run_append, ← registry.length_run before, List.getElem?_append_right le_rfl, Nat.sub_self]
  rfl

/-- The lines of a run are those of its requests, in the order of the requests, and those of each
request are the ones that belong to its reply and to what stood in the registry before it.  The
names in a line can be read off their print. -/
theorem log_eq_flatten_logs (registry : Registry) (requests : List Request) :
    (∃ entries : List (List Line),
      entries.length = requests.length ∧
      registry.log requests = entries.flatten ∧
      ∀ before request after, requests = before ++ request :: after →
        ∃ reply lines, (registry.replies requests)[before.length]? = some reply ∧
          entries[before.length]? = some lines ∧
          (registry.final before).Logs request reply lines) ∧
    ∀ names others, (Event.Field.names names).print = (Event.Field.names others).print →
      names = others := by
  refine ⟨⟨(registry.run requests).2.map Outcome.lines, ?_, rfl, ?_⟩, ?_⟩
  · rw [List.length_map, length_run]
  · intro before request after hsplit
    have houtcome := registry.getElem?_run before after request
    rw [← hsplit] at houtcome
    refine ⟨_, _, ?_, ?_, (registry.final before).logs_step request⟩
    · rw [replies, List.getElem?_map, houtcome]
      rfl
    · rw [List.getElem?_map, houtcome]
      rfl
  · intro names others hprint
    exact Text.quoteList_injective hprint

/-- A mount whose template has a default without use, rendered in a chain of two. -/
theorem log_eq_flatten_logs_of_chain :
    ∃ before : List Request, ∃ entries : List (List Line),
      log {} (before ++ [.render "b" (Bindings.ofPairs [("x", "1")])]) = entries.flatten ∧
      entries.length = 5 ∧
      entries[4]? = some [.rendered "b(/:y)" "/1/b"] := by
  let before : List Request :=
    [.create "a" "/:x" {} .default, .create "b" "b(/:y" {} .default,
      .create "b" "b(/:y)" (Bindings.ofPairs [("z", "1")]) .default, .attach "b" "a"]
  let bindings := Bindings.ofPairs [("x", "1")]
  let mount : Mount :=
    .under (.root ⟨"/:x", {}, [.separator, .var "x"], ⟨["x"], []⟩, false⟩)
      ⟨"b(/:y)", Bindings.ofPairs [("z", "1")], [.text "b", .group [.separator, .var "y"]],
        ⟨[], ["y"]⟩, false⟩
  have hmount : (final {} before)["b"]? = some mount := by cbv
  have hpath : mount.render bindings = .ok "/1/b" := by cbv
  rcases (log_eq_flatten_logs {} (before ++ [.render "b" bindings])).1 with
    ⟨entries, hlength, hlog, hentries⟩
  rcases hentries before (.render "b" bindings) [] rfl with ⟨reply, lines, -, hlines, hlogs⟩
  refine ⟨before, entries, hlog, hlength, ?_⟩
  cases hlogs with
  | rendered hother hrendered =>
      obtain rfl := Option.some.inj (hother.symm.trans hmount)
      obtain rfl := Except.ok.inj (hrendered.symm.trans hpath)
      exact hlines
  | lacking hother hmissing =>
      obtain rfl := Option.some.inj (hother.symm.trans hmount)
      rw [hpath] at hmissing
      cases hmissing
  | unknown hread habsent =>
      rw [List.mem_singleton.mp hread, hmount] at habsent
      cases habsent

end Registry
end PathTemplate
