import Mathlib
import PathTemplate.Proofs.Mount.Paths
import PathTemplate.Proofs.Pattern.Dependence
import PathTemplate.Proofs.Pattern.Diagnosis

/-!
# What a rendering depends on

The fragments of the chain and the setting of the innermost template decide a rendering, and a
fragment depends on nothing but the values of the names that its template declares.  Bindings and
defaults for other names, and defaults under a name that the caller binds, leave no trace.  Each
declared name does leave one: joining and normalizing move separators only, so letters that a value
has more show up in the path.
-/

namespace PathTemplate

theorem Scope.contains_insert {bindings defaults : Bindings} {name : String}
    (h : name ∈ bindings) (key value : String) :
    Scope.contains ⟨bindings.insert key value, defaults⟩ name = true := by
  rw [contains_iff_mem]
  left
  rw [Std.TreeMap.mem_insert]
  exact .inr h

namespace Template

theorem Compiled.contains_declared_iff {template : Template} (h : template.Compiled)
    {name : String} : template.declared.contains name = true ↔ name ∈ template.pattern.names := by
  rw [h.declared]
  exact Variables.contains_ofPattern

theorem missing_congr {template other : Template} {left right : Bindings}
    (hdeclared : template.declared = other.declared)
    (hagree : ∀ name, template.declared.contains name = true →
      (template.scope left).get? name = (other.scope right).get? name) :
    template.missing left = other.missing right := by
  rw [missing, missing, ← hdeclared]
  apply List.filter_congr
  intro name hname
  have hget := hagree name (by simp [Variables.contains, hname])
  rw [Scope.contains_congr hget]

/-- Two templates with one pattern have the same fragment if the names that they declare have the
same values. -/
theorem Compiled.fragment_congr {template other : Template} (h : template.Compiled)
    (hother : other.Compiled) (hpattern : template.pattern = other.pattern)
    {left right : Bindings}
    (hagree : ∀ name, template.declared.contains name = true →
      (template.scope left).get? name = (other.scope right).get? name) :
    template.fragment left = other.fragment right := by
  have hdeclared : template.declared = other.declared := by
    rw [h.declared, hother.declared, hpattern]
  have hrender : template.pattern.render (template.scope left) =
      other.pattern.render (other.scope right) := by
    rw [← hpattern]
    apply Pattern.render_congr
    intro name hname
    exact hagree name (h.contains_declared_iff.mpr hname)
  rw [fragment, fragment, missing_congr hdeclared hagree, hrender]

theorem pathOf_congr_trailingSlash {template other : Template}
    (h : template.trailingSlash = other.trailingSlash) (joined : String) :
    template.pathOf joined = other.pathOf joined := by
  rw [pathOf, pathOf, h]

theorem letters_pathOf (template : Template) (joined : String) :
    Path.letters (template.pathOf joined) = Path.letters joined := by
  rw [Path.letters_eq_sum_components, components_pathOf, ← Path.letters_eq_sum_components]

theorem Compiled.letters_text {template : Template} (h : template.Compiled)
    {bindings : Bindings} (hbound : ∀ name ∈ template.pattern.names, name ∈ bindings)
    (name : String) {value other : String} (hlt : Path.letters value < Path.letters other) :
    Path.letters (template.text (bindings.insert name value)) ≤
      Path.letters (template.text (bindings.insert name other)) ∧
    (name ∈ template.pattern.names →
      Path.letters (template.text (bindings.insert name value)) <
        Path.letters (template.text (bindings.insert name other))) := by
  have hcontains : ∀ text : String, ∀ key ∈ template.pattern.names,
      (template.scope (bindings.insert name text)).contains key = true :=
    fun text key hkey => Scope.contains_insert (hbound key hkey) name text
  have hvalue : ∀ text : String,
      (template.scope (bindings.insert name text)).get? name = some text := by
    intro text
    simp [scope, Scope.get?]
  have hsame : ∀ text key : String, key ≠ name →
      (template.scope (bindings.insert name text)).get? key =
        (template.scope bindings).get? key := by
    intro text key hkey
    simp [scope, Scope.get?, Std.TreeMap.getElem?_insert, hkey.symm]
  have hle : ∀ key ∈ template.pattern.names,
      Path.letters (((template.scope (bindings.insert name value)).get? key).getD "") ≤
        Path.letters (((template.scope (bindings.insert name other)).get? key).getD "") := by
    intro key _
    by_cases hkey : key = name
    · rw [hkey, hvalue, hvalue]
      exact hlt.le
    · rw [hsame value key hkey, hsame other key hkey]
  have hspelled := (Pattern.spelled_of_parse_eq_ok h.parsed).1
  have hletters := hspelled.letters_render (hcontains value) (hcontains other) hle
  rw [text, text, ← Pattern.render_eq_join, ← Pattern.render_eq_join]
  constructor
  · exact hletters.1
  · intro hname
    apply hletters.2 name hname
    rw [hvalue, hvalue]
    exact hlt

/-- Where unused defaults are let through, a text that compiles does so with any defaults. -/
theorem compile_ignore {raw : String} {defaults : Bindings} {settings : Settings}
    {template : Template} (h : compile raw defaults settings = .ok template)
    (others : Bindings) (slash : Bool) :
    compile raw others ⟨.ignore, slash⟩ =
      .ok { template with defaults := others, trailingSlash := slash } := by
  obtain ⟨pattern, hparse, rfl⟩ := eq_of_compile_eq_ok h
  exact compile_ignore_of_parse_eq_ok hparse others slash

end Template

namespace Mount

theorem foldl_add_congr {templates others : List Template} {left right : Bindings}
    (h : (templates.map fun template => template.fragment left) =
      others.map fun template => template.fragment right) (assembly : Assembly) :
    templates.foldl (Assembly.add left) assembly =
      others.foldl (Assembly.add right) assembly := by
  induction templates generalizing others assembly with
  | nil =>
      have hothers : others = [] := by simpa using h.symm
      rw [hothers]
      rfl
  | cons template templates ih =>
      cases others with
      | nil => cases h
      | cons other others =>
          have hfragment : template.fragment left = other.fragment right := (List.cons.inj h).1
          have hrest := (List.cons.inj h).2
          have hadd : Assembly.add left assembly template =
              Assembly.add right assembly other := by
            rw [Assembly.add, Assembly.add, hfragment]
          rw [List.foldl_cons, List.foldl_cons, hadd, ih hrest]

theorem fragment_template_of_map_eq {mount other : Mount} {left right : Bindings}
    (h : (mount.chain.map fun template => template.fragment left) =
      other.chain.map fun template => template.fragment right) :
    mount.template.fragment left = other.template.fragment right := by
  have hlast : ∀ (mount : Mount) (bindings : Bindings),
      (mount.chain.map fun template => template.fragment bindings).getLast? =
        some (mount.template.fragment bindings) := by
    intro mount bindings
    cases mount <;> simp [Mount.template]
  have hsome := congrArg List.getLast? h
  rw [hlast, hlast] at hsome
  exact Option.some.inj hsome

/-- The fragments along the chain and the way in which the path ends decide a rendering. -/
theorem render_congr {mount other : Mount} {left right : Bindings}
    (hslash : mount.template.trailingSlash = other.template.trailingSlash)
    (hfragments : (mount.chain.map fun template => template.fragment left) =
      other.chain.map fun template => template.fragment right) :
    mount.render left = other.render right ∧
      mount.renderAlone left = other.renderAlone right := by
  have hpathOf : mount.template.pathOf = other.template.pathOf := by
    funext joined
    exact Template.pathOf_congr_trailingSlash hslash joined
  have hassemble : mount.assemble left = other.assemble right :=
    foldl_add_congr hfragments Assembly.empty
  constructor
  · rw [render_eq, render_eq, hassemble, hpathOf]
  · rw [renderAlone, renderAlone, fragment_template_of_map_eq hfragments, hpathOf]

/-! ## Declared names -/

def Declares (mount : Mount) (name : String) : Prop :=
  ∃ template ∈ mount.chain, template.declared.contains name = true

instance (mount : Mount) (name : String) : Decidable (mount.Declares name) :=
  inferInstanceAs (Decidable (∃ template ∈ mount.chain, _))

/-- Some two values of the name, all else being equal, lead to two paths. -/
def DependsOn (mount : Mount) (name : String) : Prop :=
  ∃ bindings : Bindings, ∃ value other path otherPath : String,
    mount.render (bindings.insert name value) = .ok path ∧
    mount.render (bindings.insert name other) = .ok otherPath ∧ path ≠ otherPath

/-- The mount is rebuilt, and templates in it that let unused defaults through are compiled with
other defaults, which differ only in names that the template does not declare and in names that the
caller binds. -/
inductive Redefaulted (bindings : Bindings) : Mount → Mount → Prop
  | kept {mount : Mount} : Redefaulted bindings mount mount
  | compiled {raw : String} {defaults others : Bindings} {slash : Bool}
      {template other : Template}
      (hcompile : Template.compile raw defaults ⟨.ignore, slash⟩ = .ok template)
      (hother : Template.compile raw others ⟨.ignore, slash⟩ = .ok other)
      (hagree : ∀ name, template.declared.contains name = true → name ∉ bindings →
        defaults[name]? = others[name]?) :
      Redefaulted bindings (root template) (root other)
  | attached {mount other parent otherParent : Mount}
      (hmount : Redefaulted bindings mount other)
      (hparent : Redefaulted bindings parent otherParent) :
      Redefaulted bindings (mount.attach parent) (other.attach otherParent)

theorem Built.fragments_congr {mount : Mount} (h : mount.Built) {left right : Bindings}
    (hagree : ∀ name, mount.Declares name → left[name]? = right[name]?) :
    (mount.chain.map fun template => template.fragment left) =
      mount.chain.map fun template => template.fragment right := by
  apply List.map_congr_left
  intro template hmem
  have hcompiled := h.compiled_of_mem_chain hmem
  apply hcompiled.fragment_congr hcompiled rfl
  intro name hname
  rw [Template.scope, Template.scope, Scope.get?, Scope.get?, hagree name ⟨template, hmem, hname⟩]

theorem Redefaulted.fragments_eq {bindings : Bindings} {mount other : Mount}
    (h : Redefaulted bindings mount other) :
    mount.template.trailingSlash = other.template.trailingSlash ∧
      (mount.chain.map fun template => template.fragment bindings) =
        other.chain.map fun template => template.fragment bindings := by
  induction h with
  | kept => exact ⟨rfl, rfl⟩
  | @compiled raw defaults others slash template other hcompile hother hagree =>
      have hcompiled := Template.compiled_of_compile_eq_ok hcompile
      have hrebuilt : other = { template with defaults := others, trailingSlash := slash } := by
        rw [Template.compile_ignore hcompile others slash] at hother
        exact (Except.ok.inj hother).symm
      rcases Template.eq_of_compile_eq_ok hcompile with ⟨pattern, -, htemplate⟩
      have hfragment : template.fragment bindings = other.fragment bindings := by
        apply hcompiled.fragment_congr (Template.compiled_of_compile_eq_ok hother)
        · rw [hrebuilt]
        · intro name hname
          have hdefaults : template.defaults = defaults := by rw [htemplate]
          rw [hrebuilt, Template.scope, Template.scope, Scope.get?, Scope.get?, hdefaults]
          cases hvalue : bindings[name]? with
          | some value => rfl
          | none =>
              have hunbound : name ∉ bindings := by
                simpa using hvalue
              rw [hagree name hname hunbound]
      constructor
      · simp [Mount.template, hrebuilt, htemplate]
      · simp [hfragment]
  | attached hmount hparent ihmount ihparent =>
      constructor
      · exact ihmount.1
      · have hown := fragment_template_of_map_eq ihmount.2
        simp only [attach, chain_under, List.map_append, ihparent.2, List.map_singleton, hown]

/-! ## Values that show in the path -/

theorem Built.letters_render {mount : Mount} (h : mount.Built) {bindings : Bindings}
    {path : String} (hpath : mount.render bindings = .ok path) :
    Path.letters path = ((mount.fragments bindings).map Path.letters).sum := by
  rw [(h.render_eq_ok_iff.mp hpath).2, Template.letters_pathOf, Path.letters_foldl_join]
  simp [Path.letters]

/-- With a value for every declared name there is a path, and more letters in the value of a
declared name are more letters in the path. -/
theorem Built.letters_render_lt {mount : Mount} (h : mount.Built) {bindings : Bindings}
    (hbound : ∀ name, mount.Declares name → name ∈ bindings) {name value other : String}
    (hname : mount.Declares name) (hlt : Path.letters value < Path.letters other) :
    ∃ path otherPath, mount.render (bindings.insert name value) = .ok path ∧
      mount.render (bindings.insert name other) = .ok otherPath ∧
      Path.letters path < Path.letters otherPath := by
  have hnames : ∀ template ∈ mount.chain, ∀ key ∈ template.pattern.names, key ∈ bindings := by
    intro template hmem key hkey
    have hcompiled := h.compiled_of_mem_chain hmem
    exact hbound key ⟨template, hmem, hcompiled.contains_declared_iff.mpr hkey⟩
  have hready : ∀ text : String, ∀ template ∈ mount.chain,
      template.Ready (bindings.insert name text) := by
    intro text template hmem key hvar
    left
    rw [Std.TreeMap.mem_insert]
    right
    apply hnames template hmem
    exact Pattern.directNames_subset_names _ (Pattern.mem_directNames.mpr hvar)
  have hpath := h.render_eq_ok (hready value)
  have hotherPath := h.render_eq_ok (hready other)
  have htexts : ∀ template ∈ mount.chain,
      Path.letters (template.text (bindings.insert name value)) ≤
        Path.letters (template.text (bindings.insert name other)) := by
    intro template hmem
    exact ((h.compiled_of_mem_chain hmem).letters_text (hnames template hmem) name hlt).1
  have hsome : ∃ template ∈ mount.chain,
      Path.letters (template.text (bindings.insert name value)) <
        Path.letters (template.text (bindings.insert name other)) := by
    rcases hname with ⟨template, hmem, hdeclared⟩
    have hcompiled := h.compiled_of_mem_chain hmem
    have hnamed := hcompiled.contains_declared_iff.mp hdeclared
    exact ⟨template, hmem, (hcompiled.letters_text (hnames template hmem) name hlt).2 hnamed⟩
  have hsum := List.sum_lt_sum _ _ htexts hsome
  have hletters : ∀ text path : String, mount.render (bindings.insert name text) = .ok path →
      Path.letters path = (mount.chain.map fun template =>
        Path.letters (template.text (bindings.insert name text))).sum := by
    intro text path hrender
    rw [h.letters_render hrender, fragments, List.map_map]
    rfl
  rw [← hletters value _ hpath, ← hletters other _ hotherPath] at hsum
  exact ⟨_, _, hpath, hotherPath, hsum⟩

theorem Built.dependsOn_of_declares {mount : Mount} (h : mount.Built) {name : String}
    (hname : mount.Declares name) : mount.DependsOn name := by
  let names := mount.chain.flatMap fun template => template.pattern.names
  let bindings := Bindings.ofPairs (names.map fun key => (key, ""))
  have hbound : ∀ key, mount.Declares key → key ∈ bindings := by
    intro key hkey
    rcases hkey with ⟨template, hmem, hdeclared⟩
    have hnames := (h.compiled_of_mem_chain hmem).contains_declared_iff.mp hdeclared
    have hkeys : key ∈ names := List.mem_flatMap.mpr ⟨template, hmem, hnames⟩
    simpa [bindings, Bindings.ofPairs, Std.TreeMap.mem_ofList, Function.comp_def] using hkeys
  have hlt : Path.letters "" < Path.letters "a" := by decide
  rcases h.letters_render_lt hbound hname hlt with ⟨path, otherPath, hpath, hotherPath, hletters⟩
  have hne : path ≠ otherPath := by
    intro heq
    rw [heq] at hletters
    exact lt_irrefl _ hletters
  exact ⟨bindings, "", "a", path, otherPath, hpath, hotherPath, hne⟩

/-- A rendering depends on the declared names and on no others: bindings that agree on them, as
maps or as pairs of which the last with a name counts, have the same outcome, as have mounts whose
defaults differ in other names or under names that the caller binds, with which templates that let
unused defaults through compile as well; and for each declared name, two bindings that differ in its
value only have two paths. -/
theorem depends_exactly_on_declared {mount : Mount} (hbuilt : mount.Built) :
    (∀ left right : Bindings, (∀ name, mount.Declares name → left[name]? = right[name]?) →
      mount.render left = mount.render right) ∧
    (∀ left right : List (String × String),
      (∀ name, mount.Declares name → left.reverse.lookup name = right.reverse.lookup name) →
      mount.render (Bindings.ofPairs left) = mount.render (Bindings.ofPairs right)) ∧
    (∀ bindings : Bindings, ∀ other : Mount, Redefaulted bindings mount other →
      mount.render bindings = other.render bindings ∧
      mount.renderAlone bindings = other.renderAlone bindings) ∧
    (∀ raw defaults slash template,
      Template.compile raw defaults ⟨.ignore, slash⟩ = .ok template →
      ∀ others : Bindings, ∃ other,
        Template.compile raw others ⟨.ignore, slash⟩ = .ok other ∧ other.defaults = others) ∧
    ∀ name, mount.DependsOn name ↔ mount.Declares name := by
  have hrender : ∀ left right : Bindings,
      (∀ name, mount.Declares name → left[name]? = right[name]?) →
      mount.render left = mount.render right :=
    fun left right hagree => (render_congr rfl (hbuilt.fragments_congr hagree)).1
  refine ⟨hrender, ?_, ?_, ?_, ?_⟩
  · intro left right hagree
    apply hrender
    intro name hname
    rw [Bindings.getElem?_ofPairs, Bindings.getElem?_ofPairs, hagree name hname]
  · intro bindings other hother
    exact render_congr hother.fragments_eq.1 hother.fragments_eq.2
  · intro raw defaults slash template hcompile others
    exact ⟨_, Template.compile_ignore hcompile others slash, rfl⟩
  · intro name
    constructor
    · intro hdepends
      rcases hdepends with ⟨bindings, value, other, path, otherPath, hpath, hotherPath, hne⟩
      by_contra hname
      have hsame : mount.render (bindings.insert name value) =
          mount.render (bindings.insert name other) := by
        apply hrender
        intro key hkey
        have hkeyNe : name ≠ key := by
          intro heq
          exact hname (heq ▸ hkey)
        simp [Std.TreeMap.getElem?_insert, hkeyNe]
      rw [hpath, hotherPath] at hsame
      exact hne (Except.ok.inj hsame)
    · exact hbuilt.dependsOn_of_declares

/-- The defaults of the outer template change in a name that the caller binds and in one that the
template does not declare; the inner template has a variable two groups deep. -/
theorem depends_exactly_on_declared_of_nested :
    ∃ mount other : Mount, ∃ bindings : Bindings,
      mount.Built ∧ mount.chain.map Template.raw = [":lang/", "users(/:id(/:tab))"] ∧
      Redefaulted bindings mount other ∧
      mount.render bindings = .ok "de/users/7" ∧ other.render bindings = .ok "de/users/7" ∧
      mount.DependsOn "tab" ∧ ¬mount.DependsOn "size" := by
  let bindings := Bindings.ofPairs [("lang", "de"), ("id", "7")]
  let defaults := Bindings.ofPairs [("lang", "en"), ("size", "10")]
  let others := Bindings.ofPairs [("lang", "fr")]
  let pattern : Pattern := [.var "lang", .separator]
  let outer : Template := ⟨":lang/", defaults, pattern, ⟨["lang"], []⟩, false⟩
  let otherOuter : Template := ⟨":lang/", others, pattern, ⟨["lang"], []⟩, false⟩
  let inner : Template :=
    ⟨"users(/:id(/:tab))", {},
      [.text "users", .group [.separator, .var "id", .group [.separator, .var "tab"]]],
      ⟨[], ["id", "tab"]⟩, false⟩
  let mount := (root inner).attach (root outer)
  let other := (root inner).attach (root otherOuter)
  have hpath : mount.render bindings = .ok "de/users/7" := by decide +kernel +revert
  have htab : mount.Declares "tab" := by decide +kernel +revert
  have hsize : ¬mount.Declares "size" := by decide +kernel +revert
  have hlang : "lang" ∈ bindings := by decide +kernel +revert
  have hplain : Template.compile ":lang/" {} ⟨.reject, false⟩ =
      .ok ⟨":lang/", {}, pattern, ⟨["lang"], []⟩, false⟩ := by cbv
  have houter : Template.compile ":lang/" defaults ⟨.ignore, false⟩ = .ok outer :=
    Template.compile_ignore hplain defaults false
  have hother : Template.compile ":lang/" others ⟨.ignore, false⟩ = .ok otherOuter :=
    Template.compile_ignore hplain others false
  have hinner : Template.compile "users(/:id(/:tab))" {} ⟨.reject, false⟩ = .ok inner := by cbv
  have hbuilt : mount.Built := .attached (.compiled hinner) (.compiled houter)
  have hredefaulted : Redefaulted bindings mount other := by
    apply Redefaulted.attached .kept
    apply Redefaulted.compiled houter hother
    intro name hname hunbound
    have heq : name = "lang" := by simpa [outer, Variables.contains] using hname
    exact absurd (heq ▸ hlang) hunbound
  rcases depends_exactly_on_declared hbuilt with ⟨-, -, hsame, -, hdepends⟩
  have hotherPath : other.render bindings = .ok "de/users/7" := by
    rw [← (hsame bindings other hredefaulted).1]
    exact hpath
  exact ⟨mount, other, bindings, hbuilt, rfl, hredefaulted, hpath, hotherPath,
    (hdepends "tab").mpr htab, mt (hdepends "size").mp hsize⟩

end Mount
end PathTemplate
