import Vdom.Config.Schema
import Vdom.Proofs.Exchange
import Vdom.Proofs.Json.Members
/-!
# The schema and the loader — two descriptions of one format

What a configuration file may hold is said twice: by the schema that editors read, and by the
records that the loader reads with. Here both are measured against the document itself, as a tree
of names and values.

1. **Fields.** Each field of what is read is the value that the document gives, found by name,
   whatever the order of the members (`Options.Fits.accepts`, `Config.Fits.accepts`).
2. **Defaults.** The schema declares in its own words what the loader falls back to
   (`declared_standard`), so where a document gives no value, what is read is what the schema
   declares (`Config.Fits.reflects`).
3. **Validity.** A document that the schema allows has the shape that the loader needs
   (`fits_of_allows`), and every configuration is written as such a document (`allows_tree`).
-/

namespace Vdom

open Json

/-! ## Options -/

namespace Emit.Options

/-- Options as the loader needs them: known names have values of their types. -/
structure Fits (ms : Members) : Prop where
  named : Named ms
  isBrowser : ∀ t ∈ ms.lookup (points "isBrowser"), ∃ b, t = .bool b
  runtimeGlobalName : ∀ t ∈ ms.lookup (points "runtimeGlobalName"), ∃ s, t = .text (points s)
  sourceMap : ∀ t ∈ ms.lookup (points "sourceMap"), ∃ b, t = .bool b

/-- The draft after the members seen. -/
def Draft.after (seen : Members) : Draft where
  isBrowser := (seen.lookup (points "isBrowser")).bind Json.Tree.bool?
  runtimeGlobalName := (seen.lookup (points "runtimeGlobalName")).bind Json.Tree.string?
  sourceMap := (seen.lookup (points "sourceMap")).bind Json.Tree.bool?

/-- A further member of fitting options is taken: a known one sets its field, and others are
    skipped. -/
theorem takes_after {ms seen : Members} {m : Points × Json.Tree} (fits : Fits ms) (there : m ∈ ms)
    (fresh : m.1 ∉ seen.map Prod.fst) :
    record.Takes (.after seen) m (.after (seen ++ [m])) := by
  obtain ⟨name, t⟩ := m
  obtain ⟨key, rfl⟩ : ∃ key, name = points key := fits.named.2 _ there
  have found := lookup_mem fits.named.1 there
  -- A known name has a value of its type, and it has not been set before.
  by_cases browser : key = "isBrowser"
  · subst browser
    obtain ⟨b, rfl⟩ := fits.isBrowser t found
    exact .fresh "isBrowser" Draft.isBrowser (fun d b => { d with isBrowser := some b })
      Json.Tree.bool? rfl rfl fresh (accepts_bool b)
      (by simp [Draft.after, lookup_added fresh, Json.Tree.bool?])
  by_cases globalName : key = "runtimeGlobalName"
  · subst globalName
    obtain ⟨s, rfl⟩ := fits.runtimeGlobalName t found
    exact .fresh "runtimeGlobalName" Draft.runtimeGlobalName
      (fun d s => { d with runtimeGlobalName := some s }) Json.Tree.string?
      rfl rfl fresh (accepts_string s)
      (by simp [Draft.after, lookup_added fresh, string?_points])
  by_cases map : key = "sourceMap"
  · subst map
    obtain ⟨b, rfl⟩ := fits.sourceMap t found
    exact .fresh "sourceMap" Draft.sourceMap (fun d b => { d with sourceMap := some b })
      Json.Tree.bool? rfl rfl fresh (accepts_bool b)
      (by simp [Draft.after, lookup_added fresh, Json.Tree.bool?])
  -- Any other name changes nothing and is skipped, whatever its value.
  · have same : Draft.after (seen ++ [(points key, t)]) = Draft.after seen := by
      simp [Draft.after, lookup_added fresh, browser, globalName, map]
    rw [same]
    exact .unknown (by simp [record, Field.of, Ne.symm browser, Ne.symm globalName, Ne.symm map])

/-- **OPTIONS ARE READ BY NAME**, in any order, with others among them. -/
theorem Fits.accepts {ms : Members} (fits : Fits ms) :
    Accepts read (.object ms) (Draft.after ms).options := by
  have fills : record.Fills (.after []) ms (.after ms) :=
    Record.fills_drafts Draft.after fits.named.1 fun _ _ => takes_after fits
  exact (Record.accepts fills (Record.finish_incomplete rfl _)).map Draft.options

end Emit.Options

/-! ## Configurations -/

namespace Config

/-- A configuration as the loader needs it: known names have values of their types. -/
structure Fits (ms : Members) : Prop where
  named : Named ms
  schema : ∀ t ∈ ms.lookup (points "$schema"), ∃ s, t = .text (points s)
  compiler : ∀ t ∈ ms.lookup (points "compiler"), ∃ inner, t = .object inner ∧
    Emit.Options.Fits inner

/-- The options that a value is. -/
def options? : Tree → Option Emit.Options
  | .object ms => some (Emit.Options.Draft.after ms).options
  | _ => none

/-- The draft after the members seen. -/
def Draft.after (seen : Members) : Draft where
  schema := (seen.lookup (points "$schema")).bind fun t => t.string?.map some
  compiler := (seen.lookup (points "compiler")).bind options?

/-- A further member of a fitting configuration is taken, its options by their own record. -/
theorem takes_after {ms seen : Members} {m : Points × Tree} (fits : Fits ms) (there : m ∈ ms)
    (fresh : m.1 ∉ seen.map Prod.fst) :
    record.Takes (.after seen) m (.after (seen ++ [m])) := by
  obtain ⟨name, t⟩ := m
  obtain ⟨key, rfl⟩ : ∃ key, name = points key := fits.named.2 _ there
  have found := lookup_mem fits.named.1 there
  by_cases schema : key = "$schema"
  · subst schema
    obtain ⟨s, rfl⟩ := fits.schema t found
    exact .fresh "$schema" Draft.schema (fun d s => { d with schema := some s })
      (fun t => t.string?.map some) rfl rfl fresh (accepts_nullable_string s)
      (by simp [Draft.after, lookup_added fresh, string?_points])
  by_cases compiler : key = "compiler"
  · subst compiler
    obtain ⟨inner, rfl, options⟩ := fits.compiler t found
    exact .fresh "compiler" Draft.compiler (fun d o => { d with compiler := some o }) options?
      rfl rfl fresh options.accepts
      (by simp [Draft.after, lookup_added fresh, options?])
  · have same : Draft.after (seen ++ [(points key, t)]) = Draft.after seen := by
      simp [Draft.after, lookup_added fresh, schema, compiler]
    rw [same]
    exact .unknown (by simp [record, Field.of, Ne.symm schema, Ne.symm compiler])

/-- **A CONFIGURATION IS READ BY NAME**, in any order, with others among them. -/
theorem Fits.accepts {ms : Members} (fits : Fits ms) :
    Accepts read (.object ms) (Draft.after ms).config := by
  have fills : record.Fills (.after []) ms (.after ms) :=
    Record.fills_drafts Draft.after fits.named.1 fun _ _ => takes_after fits
  exact (Record.accepts fills (Record.finish_incomplete rfl _)).map Draft.config

/-! ## What the schema declares -/

/-- The schema as a value. -/
def schemaTree : Tree := schemaDocument.tree

/-- The default that the schema declares for an option. -/
def declared (name : String) : Option Tree :=
  schemaTree.at? ["properties", "compiler", "properties", name, "default"]

/-- **ONE SET OF DEFAULTS, WRITTEN TWICE**: what the schema declares for an option is what the
    loader falls back to. -/
theorem declared_standard :
    declared "isBrowser" = some (.bool Emit.Options.standard.isBrowser)
    ∧ declared "runtimeGlobalName"
      = some (.text (points Emit.Options.standard.runtimeGlobalName))
    ∧ declared "sourceMap" = some (.bool Emit.Options.standard.sourceMap) :=
  ⟨rfl, rfl, rfl⟩

/-- A configuration is what a document gives and, where it gives nothing, what the schema
    declares. -/
structure Reflects (t : Tree) (c : Config) : Prop where
  schema : t.at? ["$schema"] = c.schema.map fun s => .text (points s)
  isBrowser : (t.at? ["compiler", "isBrowser"]).or (declared "isBrowser")
    = some (.bool c.compiler.isBrowser)
  runtimeGlobalName : (t.at? ["compiler", "runtimeGlobalName"]).or (declared "runtimeGlobalName")
    = some (.text (points c.compiler.runtimeGlobalName))
  sourceMap : (t.at? ["compiler", "sourceMap"]).or (declared "sourceMap")
    = some (.bool c.compiler.sourceMap)

theorem at?_name (t : Tree) (name : String) : t.at? [name] = t.member? name :=
  Option.bind_fun_some _

/-- An option is found below the member that holds all of them. -/
theorem at?_compiler (ms : Members) (name : String) :
    (Tree.object ms).at? ["compiler", name]
      = (ms.lookup (points "compiler")).bind fun t => t.member? name := by
  rw [Tree.at?]
  exact congrArg _ (funext fun t => at?_name t name)

/-- What is read from a fitting document is what it gives, with the declared defaults in the gaps.
    -/
theorem Fits.reflects {ms : Members} (fits : Fits ms) :
    Reflects (.object ms) (Draft.after ms).config := by
  have schema : (Tree.object ms).at? ["$schema"]
      = (Draft.after ms).config.schema.map fun s => .text (points s) := by
    cases given : ms.lookup (points "$schema") with
    | none => simp [at?_name, Tree.member?, Draft.after, Draft.config, given]
    | some t =>
        obtain ⟨s, rfl⟩ := fits.schema t given
        simp [at?_name, Tree.member?, Draft.after, Draft.config, given, string?_points]
  obtain ⟨browser, globalName, map⟩ := declared_standard
  cases given : ms.lookup (points "compiler") with
  | none =>
      -- Nothing is given, so both sides are defaults: those of the schema and those of the loader.
      have standard : (Draft.after ms).config.compiler = .standard := by
        simp [Draft.after, Draft.config, given]
      refine ⟨schema, ?_, ?_, ?_⟩
      all_goals rw [at?_compiler, given, standard, Option.bind_none, Option.none_or]
      · exact browser
      · exact globalName
      · exact map
  | some t =>
      obtain ⟨inner, rfl, options⟩ := fits.compiler t given
      have read : (Draft.after ms).config.compiler
          = (Emit.Options.Draft.after inner).options := by
        simp [Draft.after, Draft.config, given, options?]
      refine ⟨schema, ?_, ?_, ?_⟩
      all_goals rw [at?_compiler, given, read]
      all_goals rw [Option.bind_some, Tree.member?]
      · rw [browser]
        exact or_decoded Tree.bool (fun _ => rfl) options.isBrowser _
      · rw [globalName]
        exact or_decoded (fun s => Tree.text (points s)) string?_points options.runtimeGlobalName _
      · rw [map]
        exact or_decoded Tree.bool (fun _ => rfl) options.sourceMap _

/-! ## What the schema allows -/

/-- What a schema calls the type of a value. -/
def typeName : Tree → String
  | .null => "null"
  | .bool _ => "boolean"
  | .number _ => "number"
  | .text _ => "string"
  | .array _ => "array"
  | .object _ => "object"

/-- The schema for members of a name: its own among the properties, and if it has none there, the
    one for all others. -/
def memberSchema? (keywords : Members) (name : Points) : Option Tree :=
  let own := match keywords.lookup (points "properties") with
    | some (.object properties) => properties.lookup name
    | _ => none
  own.or (keywords.lookup (points "additionalProperties"))

/-- A schema allows a value, as far as its keywords `type`, `properties` and
    `additionalProperties` say; the others of the published schema only describe. -/
inductive Allows : Tree → Tree → Prop where
  | anything {t : Tree} : Allows (.bool true) t
  | keywords {keywords : Members} {t : Tree} :
      (∀ kind ∈ keywords.lookup (points "type"), kind = .text (points (typeName t))) →
      (∀ ms, t = .object ms → ∀ m ∈ ms, ∀ schema ∈ memberSchema? keywords m.1,
        Allows schema m.2) →
      Allows (.object keywords) t

/-- In no object two members share a name, and no text has a lone half of a pair. -/
inductive Tidy : Tree → Prop where
  | null : Tidy .null
  | bool {b : Bool} : Tidy (.bool b)
  | number {cs : List Char} : Tidy (.number cs)
  | text {s : String} : Tidy (.text (points s))
  | array {ts : List Tree} : (∀ t ∈ ts, Tidy t) → Tidy (.array ts)
  | object {ms : Members} : Named ms → (∀ m ∈ ms, Tidy m.2) → Tidy (.object ms)

section Allowed

variable {keywords : Members} {t : Tree}

/-- A schema that names a type allows values of this type only. -/
theorem Allows.typeName_eq {kind : String} (allowed : Allows (.object keywords) t)
    (named : keywords.lookup (points "type") = some (.text (points kind))) :
    typeName t = kind := by
  cases allowed with
  | keywords kinds _ =>
      have same : Tree.text (points kind) = .text (points (typeName t)) := kinds _ named
      exact (points_injective (Tree.text.inj same)).symm

theorem eq_object (called : typeName t = "object") : ∃ ms, t = .object ms := by
  cases t with
  | object ms => exact ⟨ms, rfl⟩
  | _ => simp [typeName] at called

theorem eq_bool (called : typeName t = "boolean") : ∃ b, t = .bool b := by
  cases t with
  | bool b => exact ⟨b, rfl⟩
  | _ => simp [typeName] at called

theorem eq_text (called : typeName t = "string") : ∃ ps, t = .text ps := by
  cases t with
  | text ps => exact ⟨ps, rfl⟩
  | _ => simp [typeName] at called

/-- The schema found for a name is that of the property of this name. -/
theorem lookup_propertyDocuments (props : List (String × Property)) (name : String) :
    (memberTrees (propertyDocuments props)).lookup (points name)
      = (props.lookup name).map fun p => p.document.tree := by
  induction props with
  | nil => rfl
  | cons field props ih =>
      obtain ⟨own, p⟩ := field
      rw [propertyDocuments, memberTrees, List.lookup_cons, List.lookup_cons, ih]
      by_cases same : name = own
      · subst same
        rw [beq_self_eq_true, beq_self_eq_true]
        rfl
      · rw [beq_false_of_ne same, beq_false_of_ne (points_injective.ne same)]

/-- Nothing but a string is the name of a property. -/
theorem eq_points_of_lookup {props : List (String × Property)} {name : Points} {schema : Tree}
    (found : (memberTrees (propertyDocuments props)).lookup name = some schema) :
    ∃ own, name = points own := by
  induction props with
  | nil => exact nomatch found
  | cons field props ih =>
      obtain ⟨own, p⟩ := field
      rw [propertyDocuments, memberTrees, List.lookup_cons] at found
      split at found
      · exact ⟨own, eq_of_beq ‹_›⟩
      · exact ih found

/-- Every member is one of the properties, and allowed by its schema. -/
def Covered (props : List (String × Property)) (ms : Members) : Prop :=
  ∀ m ∈ ms, ∃ name p, m.1 = points name ∧ props.lookup name = some p ∧
    Allows p.document.tree m.2

/-- A schema that lists properties and forbids others allows the objects of these, and no other
    value. -/
theorem allows_closed_iff {props : List (String × Property)}
    (kind : keywords.lookup (points "type") = some (.text (points "object")))
    (fields : keywords.lookup (points "properties")
      = some (.object (memberTrees (propertyDocuments props))))
    (closed : keywords.lookup (points "additionalProperties") = some (.bool false)) :
    Allows (.object keywords) t ↔ ∃ ms, t = .object ms ∧ Covered props ms := by
  have chosen (name : Points) : memberSchema? keywords name
      = ((memberTrees (propertyDocuments props)).lookup name).or (some (.bool false)) := by
    simp only [memberSchema?, fields, closed]
  constructor
  · intro allowed
    obtain ⟨ms, rfl⟩ := eq_object (allowed.typeName_eq kind)
    refine ⟨ms, rfl, fun m there => ?_⟩
    cases allowed with
    | keywords _ members =>
        have each := members ms rfl m there
        rw [chosen] at each
        -- A name without a property falls to the closed rest, where nothing is allowed.
        cases own : (memberTrees (propertyDocuments props)).lookup m.1 with
        | none =>
            rw [own] at each
            exact nomatch each _ rfl
        | some schema =>
            obtain ⟨name, same⟩ := eq_points_of_lookup own
            rw [own] at each
            rw [same, lookup_propertyDocuments] at own
            obtain ⟨p, known, rfl⟩ := Option.map_eq_some_iff.mp own
            exact ⟨name, p, same, known, each _ rfl⟩
  · rintro ⟨ms, rfl, covered⟩
    refine .keywords (fun given there => ?_) (fun ms' same m there schema given => ?_)
    · exact (Option.some.inj (kind.symm.trans there)).symm
    · cases same
      obtain ⟨name, p, same, known, allowed⟩ := covered m there
      rw [chosen, same, lookup_propertyDocuments, known] at given
      cases given
      exact allowed

/-- A schema of a scalar type allows the values of this type. -/
theorem allows_scalar {kind : String}
    (named : keywords.lookup (points "type") = some (.text (points kind)))
    (called : typeName t = kind) (scalar : ∀ ms, t ≠ .object ms) : Allows (.object keywords) t := by
  refine .keywords (fun given there => ?_) (fun ms same => absurd same (scalar ms))
  rw [called]
  exact (Option.some.inj (named.symm.trans there)).symm

theorem allows_boolean_iff {value : Bool} {description : String} :
    Allows (Property.boolean value description).document.tree t ↔ ∃ b, t = .bool b := by
  constructor
  · exact fun allowed => eq_bool (allowed.typeName_eq rfl)
  · rintro ⟨b, rfl⟩
    exact allows_scalar rfl rfl nofun

/-- The schema of a text allows exactly texts, those with lone halves of pairs among them. -/
theorem allows_string_iff {value : Option String} {description : String} :
    Allows (Property.string value description).document.tree t ↔ ∃ ps, t = .text ps := by
  constructor
  · exact fun allowed => eq_text (allowed.typeName_eq rfl)
  · rintro ⟨ps, rfl⟩
    exact allows_scalar rfl rfl nofun

/-- The schema of an object allows those whose members are all covered by its properties. -/
theorem allows_object_iff {description : String} {props : List (String × Property)} :
    Allows (Property.object description props).document.tree t
      ↔ ∃ ms, t = .object ms ∧ Covered props ms :=
  allows_closed_iff rfl rfl rfl

/-- The whole schema allows those objects whose members it knows and allows. -/
theorem allows_schema_iff : Allows schemaTree t ↔ ∃ ms, t = .object ms ∧ Covered properties ms :=
  allows_closed_iff rfl rfl rfl

/-- What a name leads to is allowed by the property of this name. -/
theorem Covered.allows {props : List (String × Property)} {ms : Members}
    (covered : Covered props ms) {name : String} {p : Property}
    (known : props.lookup name = some p) (given : ms.lookup (points name) = some t) :
    Allows p.document.tree t := by
  obtain ⟨front, back, rfl, -⟩ := List.lookup_eq_some_iff.mp given
  obtain ⟨own, q, same, found, allowed⟩ := covered (points name, t) (by simp)
  rw [← points_injective same, known] at found
  rw [Option.some.inj found]
  exact allowed

theorem Tidy.lookup {ms : Members} {name : Points} (tidy : Tidy (.object ms))
    (given : ms.lookup name = some t) : Tidy t := by
  obtain ⟨front, back, rfl, -⟩ := List.lookup_eq_some_iff.mp given
  cases tidy with
  | object _ members => exact members (name, t) (by simp)

theorem Tidy.named {ms : Members} (tidy : Tidy (.object ms)) : Named ms := by
  cases tidy with
  | object named _ => exact named

/-- A tidy text is a string. -/
theorem Tidy.text_eq {ps : Points} (tidy : Tidy (.text ps)) :
    ∃ s, Tree.text ps = .text (points s) := by
  cases tidy with
  | text => exact ⟨_, rfl⟩

end Allowed

/-- Options that the schema covers are as the loader needs them. -/
theorem options_fit {ms : Members} (covered : Covered compilerProperties ms)
    (tidy : Tidy (.object ms)) : Emit.Options.Fits ms where
  named := tidy.named
  isBrowser t given := allows_boolean_iff.mp (covered.allows rfl given)
  runtimeGlobalName t given := by
    obtain ⟨ps, rfl⟩ := allows_string_iff.mp (covered.allows rfl given)
    exact (tidy.lookup given).text_eq
  sourceMap t given := allows_boolean_iff.mp (covered.allows rfl given)

/-- **WHAT THE SCHEMA ALLOWS, THE LOADER NEEDS**: objects of known members with values of their
    types. -/
theorem fits_of_allows {t : Tree} (allowed : Allows schemaTree t) (tidy : Tidy t) :
    ∃ ms, t = .object ms ∧ Fits ms := by
  obtain ⟨ms, rfl, covered⟩ := allows_schema_iff.mp allowed
  refine ⟨ms, rfl, tidy.named, fun t given => ?_, fun t given => ?_⟩
  · obtain ⟨ps, rfl⟩ := allows_string_iff.mp (covered.allows rfl given)
    exact (tidy.lookup given).text_eq
  · obtain ⟨inner, rfl, options⟩ := allows_object_iff.mp (covered.allows rfl given)
    exact ⟨inner, rfl, options_fit options (tidy.lookup given)⟩

theorem covered_nil (props : List (String × Property)) : Covered props [] := nofun

/-- A known member that its schema allows may stand before others that are covered. -/
theorem covered_cons {props : List (String × Property)} {p : Property} {t : Tree} {ms : Members}
    (name : String) (known : props.lookup name = some p) (allowed : Allows p.document.tree t)
    (others : Covered props ms) : Covered props ((points name, t) :: ms) :=
  List.forall_mem_cons.mpr ⟨⟨name, p, rfl, known, allowed⟩, others⟩

/-- **WHAT IS WRITTEN IS VALID**: the schema allows every configuration as it is written. -/
theorem allows_tree (c : Config) : Allows schemaTree c.tree := by
  have options : Covered compilerProperties _ :=
    covered_cons "isBrowser" rfl (allows_boolean_iff.mpr ⟨c.compiler.isBrowser, rfl⟩)
      (covered_cons "runtimeGlobalName" rfl
        (allows_string_iff.mpr ⟨points c.compiler.runtimeGlobalName, rfl⟩)
        (covered_cons "sourceMap" rfl (allows_boolean_iff.mpr ⟨c.compiler.sourceMap, rfl⟩)
          (covered_nil _)))
  have last : Covered properties [(points "compiler", c.compiler.tree)] :=
    covered_cons "compiler" rfl (allows_object_iff.mpr ⟨_, rfl, options⟩) (covered_nil _)
  refine allows_schema_iff.mpr ⟨_, rfl, ?_⟩
  cases c.schema with
  | none => exact last
  | some s => exact covered_cons "$schema" rfl (allows_string_iff.mpr ⟨points s, rfl⟩) last

/-- Options are written as a tidy value, and so is a configuration. -/
theorem tidy_options (o : Emit.Options) : Tidy o.tree := by
  refine .object (named_of_names ["isBrowser", "runtimeGlobalName", "sourceMap"] rfl (by decide)) ?_
  simp only [List.forall_mem_cons]
  exact ⟨.bool, .text, .bool, nofun⟩

theorem tidy_tree (c : Config) : Tidy c.tree := by
  obtain ⟨schema, compiler⟩ := c
  have last : ∀ m ∈ [(points "compiler", compiler.tree)], Tidy m.2 :=
    List.forall_mem_singleton.mpr (tidy_options compiler)
  cases schema with
  | none => exact .object (named_of_names ["compiler"] rfl (by decide)) last
  | some s =>
      exact .object (named_of_names ["$schema", "compiler"] rfl (by decide))
        (List.forall_mem_cons.mpr ⟨.text, last⟩)

/-! ## Agreement -/

/-- A fitting document is loaded, and what is loaded reflects it. -/
theorem Fits.loads {home : Files.Entry} {document : String} {ms : Members} (fits : Fits ms)
    (found : Files.find path home = .ok (.file document.toUTF8))
    (written : (Tree.object ms).WrittenAs document) :
    ∃ c, load (some home) = .ok c ∧ Reflects (.object ms) c :=
  ⟨_, load_found found (fits.accepts.document written), fits.reflects⟩

/-- **THE LOADER AGREES WITH THE SCHEMA**: the schema's text says what is declared, a document in
    which known names have values of their types is loaded as what it gives and what the schema
    declares, and every document that the schema allows is one of these. -/
theorem schema_agrees :
    schemaTree.WrittenAs schemaText ∧
      ∀ (home : Files.Entry) (document : String) (t : Tree),
        Files.find path home = .ok (.file document.toUTF8) → t.WrittenAs document →
          (∀ ms, t = .object ms → Fits ms → ∃ c, load (some home) = .ok c ∧ Reflects t c) ∧
          (Allows schemaTree t → Tidy t → ∃ c, load (some home) = .ok c ∧ Reflects t c) := by
  refine ⟨schemaDocument.pretty_written, fun home document t found written => ⟨?_, ?_⟩⟩
  · rintro ms rfl fits
    exact fits.loads found written
  · intro allowed tidy
    obtain ⟨ms, rfl, fits⟩ := fits_of_allows allowed tidy
    exact fits.loads found written

/-- Options of which one is given and one unknown. -/
def sampleOptions : Members := [(points "sourceMap", .bool true), (points "y", .object [])]

/-- A configuration behind an unknown member with a half of a pair in it. -/
def sampleMembers : Members :=
  [(points "x", .array [.number ['-', '1', 'e', '9'], .text [0xd800]]),
    (points "compiler", .object sampleOptions)]

/-- It is written with blanks and with an escape in a name. -/
def sampleDocument : String :=
  "\x7b\"x\":[-1e9,\"\\ud800\"],\n\"\\u0063ompiler\":\x7b\"sourceMap\" :true,\"y\":\x7b\x7d\x7d\x7d"

/-- The document of the sample says its members. -/
theorem sample_written : (Tree.object sampleMembers).WrittenAs sampleDocument := by
  have unsigned : Unsigned (['1'] ++ ([] ++ ['e', '9'])) :=
    .mk ⟨⟨nofun, List.all_eq_true.mp rfl⟩, nofun⟩ .none
      (.unsigned (by decide) ⟨nofun, List.all_eq_true.mp rfl⟩)
  have half : Spells [0xd800] ['\\', 'u', 'd', '8', '0', '0'] :=
    .half rfl (.inl rfl) (by simp) .done
  have space : Blank [' '] := by simp [Blank]
  have line : Blank ['\n'] := by simp [Blank]
  have unknown := Written.array
    (.more (.of_written (.number (.negative unsigned))) (.last (.of_written (.text half))))
  have sourceMap : Member (points "sourceMap", .bool true) _ :=
    .mk blank_nil (spells_points "sourceMap") space (.of_written .yes)
  have empty : Member (points "y", .object []) _ :=
    .mk blank_nil (spells_points "y") blank_nil (.of_written (.noMembers blank_nil))
  have compiler : Spells (points "compiler") _ :=
    .unit (a := '0') (b := '0') (c := '6') (d := '3') rfl rfl rfl (spells_points "ompiler")
  have options : Written (.object sampleOptions) _ := .object (.more sourceMap (.last empty))
  have whole : Written (.object sampleMembers) _ := .object (.more
    (.mk blank_nil (spells_points "x") blank_nil (.of_written unknown))
    (.last (.mk line compiler blank_nil (.of_written options))))
  have entry := Entry.of_written whole
  simpa [Tree.WrittenAs, sampleDocument, Text.Quoted.escape] using entry

/-- The sample is as the loader needs it. -/
theorem sample_fits : Fits sampleMembers := by
  have options : Emit.Options.Fits sampleOptions :=
    { named := named_of_names ["sourceMap", "y"] rfl (by decide)
      isBrowser := nofun
      runtimeGlobalName := nofun
      sourceMap := by
        rintro _ ⟨⟩
        exact ⟨true, rfl⟩ }
  refine ⟨named_of_names ["x", "compiler"] rfl (by decide), nofun, ?_⟩
  rintro _ ⟨⟩
  exact ⟨sampleOptions, rfl, options⟩

/-- A folder with a configuration file. -/
def folderOf (document : String) : Files.Entry :=
  .folder [("chibi.config.json", .file document.toUTF8)]

/-- The sample is loaded as what it gives, and so is a document that the schema allows. -/
theorem sample_agrees :
    (∃ c, load (some (folderOf sampleDocument)) = .ok c ∧ Reflects (.object sampleMembers) c) ∧
      ∃ c, load (some (folderOf awkward.write)) = .ok c ∧ Reflects awkward.tree c := by
  have sample := schema_agrees.2 (folderOf sampleDocument) sampleDocument _ rfl sample_written
  have valid := schema_agrees.2 (folderOf awkward.write) awkward.write _ rfl
    (.of_written awkward.written)
  exact ⟨sample.1 sampleMembers rfl sample_fits,
    valid.2 (allows_tree awkward) (tidy_tree awkward)⟩

end Config

end Vdom
