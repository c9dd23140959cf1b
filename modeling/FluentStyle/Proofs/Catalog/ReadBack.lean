import FluentStyle.Catalog.Decode
import FluentStyle.Catalog.Encode
import FluentStyle.Proofs.Yaml.Reread
import Mathlib.Data.Option.Basic

/-!
# Configurations read back

A configuration that was read from a document, written as data and read again is the same
configuration: every field is written unless it has the value that it is read with where it is
missing, the fields of a rule do not collide with those of its kind, and the numbers are in the
ranges in which they are read.
-/

namespace FluentStyle

open Yaml

/-!
# Numbers in range

All integers of a document that count as integers are in range, so a configuration that was read has
its numbers in range.
-/

/-- The numbers of a configuration are in the ranges in which they are read. -/
structure Config.InRange (config : Config) : Prop where
  minFields : ∀ group ∈ config.groups, group.minFields < UInt64.size
  priority : ∀ rule ∈ config.rules, -0x80000000 ≤ rule.priority ∧ rule.priority < 0x80000000
  minSiblings : ∀ rule ∈ config.rules, ∀ count message,
    rule.kind = .lookalikes count message → count < UInt64.size

namespace Yaml.Node

theorem of_optional?_eq_some {α : Type} {fields : List (String × Node)} {name : String}
    {absent value : α} {read : Node → Option α}
    (h : optional? fields name absent read = some value) :
    value = absent ∨ ∃ node, read node = some value := by
  unfold optional? at h
  split at h
  · exact Or.inl (Option.some.inj h).symm
  · exact Or.inr ⟨_, h⟩
  · cases h

theorem of_required?_eq_some {α : Type} {fields : List (String × Node)} {name : String}
    {value : α} {read : Node → Option α} (h : required? fields name read = some value) :
    ∃ node, read node = some value := by
  unfold required? at h
  split at h
  · exact ⟨_, h⟩
  · cases h

theorem required?_congr {α : Type} {fields others : List (String × Node)} {name : String}
    {read : Node → Option α} (h : fields.filter (·.1 = name) = others.filter (·.1 = name)) :
    required? fields name read = required? others name read := by
  unfold required?
  rw [h]

theorem optional?_congr {α : Type} {fields others : List (String × Node)} {name : String}
    {absent : α} {read : Node → Option α}
    (h : fields.filter (·.1 = name) = others.filter (·.1 = name)) :
    optional? fields name absent read = optional? others name absent read := by
  unfold optional?
  rw [h]

theorem of_mem_mapM {α : Type} {nodes : List Node} {items : List α} {read : Node → Option α}
    (h : nodes.mapM read = some items) {item : α} (hitem : item ∈ items) :
    ∃ node, read node = some item := by
  induction nodes generalizing items with
  | nil =>
      cases h
      cases hitem
  | cons node rest ih =>
      rw [List.mapM_cons] at h
      rcases Option.bind_eq_some_iff.mp h with ⟨first, hfirst, h⟩
      rcases Option.bind_eq_some_iff.mp h with ⟨others, hothers, h⟩
      cases h
      rcases List.mem_cons.mp hitem with rfl | hlater
      · exact ⟨node, hfirst⟩
      · exact ih hothers hlater

theorem intRange_of_ofPlain {text : String} {n : Int} (h : Resolved.ofPlain text = .int n) :
    intRange n = true := by
  unfold Resolved.ofPlain at h
  split at h
  · cases h
  · split at h
    · cases h
    · split at h
      · split at h
        · cases h
          assumption
        · cases h
      · split at h <;> cases h

theorem intRange_of_resolved? {node : Node} {n : Int} (h : node.resolved? = some (.int n)) :
    intRange n = true := by
  unfold resolved? at h
  split at h
  · split at h
    · cases h
    · exact intRange_of_ofPlain (Option.some.inj h)
  · cases h
  · split at h
    · cases h
    · split at h
      · split at h <;> cases h
      · split at h
        · rcases Option.map_eq_some_iff.mp h with ⟨_, _, hbool⟩
          cases hbool
        · split at h
          · rcases Option.map_eq_some_iff.mp h with ⟨m, hm, hint⟩
            cases hint
            exact (Option.filter_eq_some_iff.mp hm).2
          · split at h
            · split at h <;> cases h
            · cases h
  · cases h

theorem dataNat?_lt {node : Node} {count : Nat} (h : node.dataNat? = some count) :
    count < UInt64.size := by
  unfold dataNat? at h
  split at h
  · rename_i n hn
    have hrange := intRange_of_resolved? hn
    simp only [intRange, Bool.and_eq_true, decide_eq_true_eq] at hrange
    have hcount := Int.mem_toNat?.mp h
    omega
  · cases h

end Yaml.Node

theorem Group.minFields_lt_of_ofNode? {node : Node} {group : Group}
    (h : Group.ofNode? node = some group) : group.minFields < UInt64.size := by
  unfold Group.ofNode? at h
  simp only [Option.bind_eq_bind, Option.bind_eq_some_iff] at h
  rcases h with ⟨fields, _, _, _, _, _, _, _, _, _, minFields, hminFields, h⟩
  cases h
  rcases Node.of_optional?_eq_some hminFields with rfl | ⟨node, hnode⟩
  · show 2 < UInt64.size
    decide
  · exact of_decide_eq_true (Option.filter_eq_some_iff.mp hnode).2

theorem RuleKind.lt_of_ofFields? {fields : List (String × Node)} {count : Nat}
    {message : Option String} (h : RuleKind.ofFields? fields = some (.lookalikes count message)) :
    count < UInt64.size := by
  unfold RuleKind.ofFields? at h
  simp only [Option.bind_eq_bind, Option.bind_eq_some_iff] at h
  rcases h with ⟨kind, _, h⟩
  split at h
  · cases h
  · cases h
  · rcases Option.bind_eq_some_iff.mp h with ⟨_, _, h⟩
    cases h
  · rcases Option.bind_eq_some_iff.mp h with ⟨_, _, h⟩
    split at h
    · cases h
    · cases h
    · rcases Option.bind_eq_some_iff.mp h with ⟨_, _, h⟩
      cases h
  · rcases Option.bind_eq_some_iff.mp h with ⟨least, hleast, h⟩
    rcases Option.bind_eq_some_iff.mp h with ⟨_, _, h⟩
    cases h
    rcases Node.of_optional?_eq_some hleast with rfl | ⟨node, hnode⟩
    · decide
    · exact Node.dataNat?_lt hnode
  · cases h

theorem Rule.inRange_of_ofNode? {node : Node} {rule : Rule} (h : Rule.ofNode? node = some rule) :
    (-0x80000000 ≤ rule.priority ∧ rule.priority < 0x80000000) ∧
      ∀ count message, rule.kind = .lookalikes count message → count < UInt64.size := by
  unfold Rule.ofNode? at h
  split at h
  · simp only [Option.bind_eq_bind, Option.bind_eq_some_iff] at h
    rcases h with ⟨_, _, _, _, _, _, _, _, priority, hpriority, _, _, kind, hkind, h⟩
    cases h
    constructor
    · rcases Node.of_optional?_eq_some hpriority with rfl | ⟨node, hnode⟩
      · show (-0x80000000 : Int) ≤ 0 ∧ (0 : Int) < 0x80000000
        decide
      · have hrange := (Option.filter_eq_some_iff.mp hnode).2
        simpa using hrange
    · rintro count message rfl
      exact RuleKind.lt_of_ofFields? hkind
  · cases h

namespace Config

/-- A configuration that was read has its numbers in range. -/
theorem inRange_of_ofNode? {node : Node} {config : Config} (h : ofNode? node = some config) :
    config.InRange := by
  unfold ofNode? at h
  simp only [Option.bind_eq_bind, Option.bind_eq_some_iff] at h
  rcases h with ⟨_, _, _, _, _, _, _, _, _, _, _, _, _, _, groups, hgroups, rules, hrules, h⟩
  cases h
  have hmem : ∀ rule ∈ rules, ∃ node, Rule.ofNode? node = some rule := by
    intro rule hrule
    rcases Node.of_required?_eq_some hrules with ⟨node, hnode⟩
    rcases Option.bind_eq_some_iff.mp hnode with ⟨nodes, _, hnodes⟩
    exact Node.of_mem_mapM hnodes hrule
  constructor
  · intro group hgroup
    rcases Node.of_optional?_eq_some hgroups with rfl | ⟨node, hnode⟩
    · cases hgroup
    · rcases Option.bind_eq_some_iff.mp hnode with ⟨nodes, _, hnodes⟩
      rcases Node.of_mem_mapM hnodes hgroup with ⟨node, hnode⟩
      exact Group.minFields_lt_of_ofNode? hnode
  · intro rule hrule
    rcases hmem rule hrule with ⟨node, hnode⟩
    exact (Rule.inRange_of_ofNode? hnode).1
  · intro rule hrule
    rcases hmem rule hrule with ⟨node, hnode⟩
    exact (Rule.inRange_of_ofNode? hnode).2

end Config

/-!
# Groups
-/

theorem Pattern.parse?_source (pattern : Pattern) :
    Pattern.parse? pattern.source = some pattern := by
  unfold Pattern.parse?
  split
  · exact congrArg some (Pattern.ext_source rfl)
  · rename_i h
    rw [pattern.isParsed] at h
    cases h

theorem FieldTest.ofNode?_toData (test : FieldTest) :
    FieldTest.ofNode? test.toData.toNode = some test := by
  have hdata : test.toData.toNode.isData = true := by
    cases test <;>
      simp only [FieldTest.toData, Data.toNode, Data.toEntries, Node.isData, Node.entriesAreData,
        Node.isData_ofText] <;>
      rfl
  have hguard : (guard (true = true) : Option Unit) = some () := rfl
  unfold FieldTest.ofNode?
  rw [hdata, hguard]
  cases test <;>
    simp only [FieldTest.toData, Data.toNode, Node.filterMap_toEntries] <;>
    simp [Data.toFields, Node.required?, Data.toNode_text, Node.text?_ofText, Node.dataText?_ofText,
      Pattern.parse?_source]

theorem Group.ofNode?_toData {group : Group} (h : group.minFields < UInt64.size) :
    Group.ofNode? group.toData.toNode = some group := by
  rw [Group.ofNode?, Group.toData, Node.fields?_toNode]
  simp [Data.toFields, Node.required?, Node.optional?, Data.toNode_text, Node.text?_ofText,
    FieldTest.ofNode?_toData, Node.nat?_toNode, Option.filter_some, h]

/-!
# Rules

The fields that all rules have and those that belong to the kind of a rule are told apart by their
names.
-/

theorem RuleKind.ofFields?_toFields {kind : RuleKind}
    (h : ∀ count message, kind = .lookalikes count message → count < UInt64.size) :
    RuleKind.ofFields? (Data.toFields kind.toFields) = some kind := by
  cases kind with
  | lookalikes count message =>
      have hcount := Node.dataNat?_toNode (h count message rfl)
      cases message <;>
        simp [RuleKind.ofFields?, RuleKind.toFields, Data.toFields, Node.required?, Node.optional?,
          Data.toNode_text, Node.oneOf?_ofText, RuleKind.names, hcount,
          Node.optionalDataText?_ofText]
  | _ =>
      simp [RuleKind.ofFields?, RuleKind.toFields, Data.toFields, Node.required?, Node.optional?,
        Data.toNode_text, Node.oneOf?_ofText, RuleKind.names, RuleKind.templateNames,
        Node.dataTexts?_toNode]

theorem RuleKind.isData_toFields {kind : RuleKind}
    (h : ∀ count message, kind = .lookalikes count message → count < UInt64.size) :
    ((Data.toFields kind.toFields).all fun (_, value) => value.isData) = true := by
  cases kind with
  | lookalikes count message =>
      have hcount := Node.isData_toNode_int (Node.intRange_of_lt (h count message rfl))
      cases message <;>
        simp [RuleKind.toFields, Data.toFields, Data.toNode_text, Node.isData_ofText, hcount]
  | _ =>
      simp [RuleKind.toFields, Data.toFields, Data.toNode_text, Node.isData_ofText,
        Node.isData_toNode_texts]

/-- The fields of a kind are not fields that all rules have. -/
theorem RuleKind.isOwn_toFields (kind : RuleKind) {field : String × Data}
    (h : field ∈ kind.toFields) : (!Rule.commonFields.contains field.1) = true := by
  have hall : (kind.toFields.all fun field => !Rule.commonFields.contains field.1) = true := by
    cases kind with
    | lookalikes count message => cases message <;> rfl
    | _ => rfl
  exact List.all_eq_true.mp hall field h

namespace Rule

def commonData (rule : Rule) : List (String × Data) :=
  ("id", .text rule.id) ::
    (rule.description.map fun text => ("description", Data.text text)).toList ++
    [("priority", .int rule.priority), ("idempotent", .bool rule.idempotent)]

theorem toData_eq (rule : Rule) :
    rule.toData = .mapping (rule.commonData ++ rule.kind.toFields) := by
  rw [toData, commonData]

theorem filter_own (rule : Rule) :
    (Data.toFields (rule.commonData ++ rule.kind.toFields)).filter
      (fun (name, _) => !commonFields.contains name) = Data.toFields rule.kind.toFields := by
  rw [Data.toFields, List.filter_map, List.filter_append]
  have hcommon : rule.commonData.filter (fun field => !commonFields.contains field.1) = [] := by
    rw [commonData]
    cases rule.description <;> rfl
  have hown : rule.kind.toFields.filter (fun field => !commonFields.contains field.1) =
      rule.kind.toFields :=
    List.filter_eq_self.mpr fun field hfield => rule.kind.isOwn_toFields hfield
  show (rule.commonData.filter (fun field => !commonFields.contains field.1) ++
    rule.kind.toFields.filter (fun field => !commonFields.contains field.1)).map _ = _
  rw [hcommon, hown]
  rfl

theorem filter_common (rule : Rule) (name : String) (hname : name ∈ commonFields) :
    (Data.toFields (rule.commonData ++ rule.kind.toFields)).filter (·.1 = name) =
      (Data.toFields rule.commonData).filter (·.1 = name) := by
  have hown : (Data.toFields rule.kind.toFields).filter (·.1 = name) = [] := by
    rw [List.filter_eq_nil_iff]
    intro field hfield hsame
    rcases List.mem_map.mp hfield with ⟨entry, hentry, rfl⟩
    have hout := rule.kind.isOwn_toFields hentry
    rw [show entry.1 = name from of_decide_eq_true hsame] at hout
    simp [hname] at hout
  rw [Data.toFields, List.map_append, List.filter_append]
  exact (congrArg _ hown).trans (List.append_nil _)

theorem ofNode?_toData {rule : Rule}
    (hpriority : -0x80000000 ≤ rule.priority ∧ rule.priority < 0x80000000)
    (hkind : ∀ count message, rule.kind = .lookalikes count message → count < UInt64.size) :
    ofNode? rule.toData.toNode = some rule := by
  have hfields := Node.fields?_toNode (rule.commonData ++ rule.kind.toFields)
  have hown := RuleKind.isData_toFields hkind
  have hcommon := rule.filter_common
  have hid : Node.required? (Data.toFields (rule.commonData ++ rule.kind.toFields)) "id"
      Node.text? = some rule.id := by
    rw [Node.required?_congr (hcommon "id" (by decide)), commonData]
    cases rule.description <;>
      simp [Data.toFields, Node.required?, Data.toNode_text, Node.text?_ofText]
  have hdescription : Node.optional? (Data.toFields (rule.commonData ++ rule.kind.toFields))
      "description" none Node.optionalText? = some rule.description := by
    rw [Node.optional?_congr (hcommon "description" (by decide)), commonData]
    cases rule.description <;>
      simp [Data.toFields, Node.optional?, Data.toNode_text, Node.optionalText?_ofText]
  have hnumber : Node.optional? (Data.toFields (rule.commonData ++ rule.kind.toFields))
      "priority" 0 (fun node => node.int?.filter fun n => -0x80000000 ≤ n && n < 0x80000000) =
        some rule.priority := by
    rw [Node.optional?_congr (hcommon "priority" (by decide)), commonData]
    cases rule.description <;>
      simp [Data.toFields, Node.optional?, Node.int?_toNode, Option.filter_some, hpriority]
  have hidempotent : Node.optional? (Data.toFields (rule.commonData ++ rule.kind.toFields))
      "idempotent" true Node.bool? = some rule.idempotent := by
    rw [Node.optional?_congr (hcommon "idempotent" (by decide)), commonData]
    cases rule.description <;>
      simp [Data.toFields, Node.optional?, Node.bool?_toNode]
  rw [toData_eq]
  unfold ofNode?
  rw [hfields]
  simp only [Data.toNode, Option.bind_eq_bind, Option.bind_some, filter_own, hown, hid,
    hdescription, hnumber, hidempotent, RuleKind.ofFields?_toFields hkind]
  rfl

end Rule

/-!
# Catalogs of calls

What is written for the categories is read as their order, the calls and the exempt calls.
-/

namespace Config

def listed (config : Config) : List (Category × List String) :=
  Category.all.filterMap fun category => (config.calls category).map (category, ·)

theorem lookup_listed (calls : Category → Option (List String)) (category : Category)
    (categories : List Category) :
    (categories.filterMap fun c => (calls c).map (c, ·)).lookup category =
      if category ∈ categories then calls category else none := by
  induction categories with
  | nil => rfl
  | cons first rest ih =>
      rw [List.filterMap_cons]
      cases hcalls : calls first with
      | none =>
          rw [Option.map_none]
          simp only [ih, List.mem_cons]
          by_cases hsame : category = first
          · simp [hsame, hcalls]
          · simp [hsame]
      | some names =>
          rw [Option.map_some]
          simp only [List.lookup_cons, ih, List.mem_cons]
          by_cases hsame : category = first
          · simp [hsame, hcalls]
          · simp [hsame, beq_false_of_ne hsame]

theorem calls_eq_lookup (config : Config) :
    (fun category => config.listed.reverse.lookup category) = config.calls := by
  funext category
  rw [listed, ← List.filterMap_reverse, lookup_listed, if_pos]
  exact List.mem_reverse.mpr category.mem_all

theorem categoryOfNode?_toNode (category : Category) :
    Category.ofNode? (.ofText category.name) = some category := by
  rw [Node.ofText, Category.ofNode?]
  exact category.ofName?_name

theorem callsOfNode?_toNode (config : Config) :
    callsOfNode? (Data.mapping (config.listed.map fun entry =>
      (entry.1.name, .texts entry.2))).toNode = some config.calls := by
  have hlists : ((config.listed.map fun entry =>
      (entry.1.name, Data.texts entry.2)).map fun field =>
        (Node.ofText field.1, field.2.toNode)).mapM
        (fun entry => do
          return (← Category.ofNode? entry.1, ← entry.2.texts?)) = some config.listed := by
    rw [List.map_map]
    apply Node.mapM_map_eq_some
    intro entry _
    simp [categoryOfNode?_toNode, Node.texts?_toNode]
  unfold callsOfNode?
  rw [Node.entries?_toNode]
  refine (congrArg (fun lists : Option (List (Category × List String)) =>
    lists.bind fun lists => some fun category => lists.reverse.lookup category) hlists).trans ?_
  exact congrArg some config.calls_eq_lookup

theorem order_toNode (order : List Category) :
    ((Data.texts (order.map Category.name)).toNode.items?.bind (·.mapM Category.ofNode?)) =
      some order := by
  rw [Data.texts, Node.items?_toNode, List.map_map, List.map_map]
  exact Node.mapM_map_eq_some fun category _ => categoryOfNode?_toNode category

theorem categories_toFields (config : Config) :
    ∃ fields : List (String × Node), config.categoriesData.toNode.fields? = some fields ∧
      Node.required? fields "order" (fun node => node.items?.bind (·.mapM Category.ofNode?)) =
        some config.order ∧
      Node.optional? fields "calls" (fun _ => none) callsOfNode? = some config.calls ∧
      Node.optional? fields "exempt" [] Node.texts? = some config.exempt := by
  have hcalls : (Category.all.filterMap fun category =>
      (config.calls category).map fun calls => (category.name, Data.texts calls)) =
        config.listed.map fun entry => (entry.1.name, .texts entry.2) := by
    rw [listed, List.map_filterMap]
    refine congrArg (fun f => Category.all.filterMap f) (funext fun category => ?_)
    cases config.calls category <;> rfl
  rw [categoriesData, hcalls, Node.fields?_toNode]
  refine ⟨_, rfl, ?_, ?_, ?_⟩
  · cases config.exempt.isEmpty <;> exact order_toNode config.order
  · cases config.exempt.isEmpty <;> exact callsOfNode?_toNode config
  · cases config.exempt with
    | nil => rfl
    | cons call calls => exact Node.texts?_toNode (call :: calls)

/-- A configuration whose numbers are in range is read as itself from the node of its data. -/
theorem ofNode?_toData {config : Config} (h : config.InRange) :
    ofNode? config.toData.toNode = some config := by
  have hgroups : ((Data.sequence (config.groups.map Group.toData)).toNode.items?.bind
      (·.mapM Group.ofNode?)) = some config.groups := by
    rw [Node.items?_toNode, List.map_map]
    exact Node.mapM_map_eq_some fun group hgroup => Group.ofNode?_toData (h.minFields group hgroup)
  have hrules : ((Data.sequence (config.rules.map Rule.toData)).toNode.items?.bind
      (·.mapM Rule.ofNode?)) = some config.rules := by
    rw [Node.items?_toNode, List.map_map]
    exact Node.mapM_map_eq_some fun rule hrule =>
      Rule.ofNode?_toData (h.priority rule hrule) (h.minSiblings rule hrule)
  have hversion : versionOfNode? (Data.int 1).toNode = some () := by
    rw [versionOfNode?, Node.int?_toNode]
    rfl
  rcases config.categories_toFields with ⟨categories, hcategories, horder, hcalls, hexempt⟩
  rw [ofNode?, toData, Node.fields?_toNode, Option.bind_eq_bind, Option.bind_some]
  generalize hfields : Data.toFields _ = fields
  have hread : Node.required? fields "version" versionOfNode? = some () ∧
      Node.required? fields "categories" Node.fields? = some categories ∧
      Node.optional? fields "constructors" ["make"] Node.texts? = some config.constructors ∧
      Node.optional? fields "grouping" [] (fun node => node.items?.bind (·.mapM Group.ofNode?)) =
        some config.groups ∧
      Node.required? fields "rules" (fun node => node.items?.bind (·.mapM Rule.ofNode?)) =
        some config.rules := by
    subst hfields
    refine ⟨?_, ?_, ?_, ?_, ?_⟩
    · cases config.groups.isEmpty <;> exact hversion
    · cases config.groups.isEmpty <;> exact hcategories
    · cases config.groups.isEmpty <;> exact Node.texts?_toNode config.constructors
    · cases hnone : config.groups with
      | nil => rfl
      | cons group groups =>
          rw [hnone] at hgroups
          exact hgroups
    · cases config.groups.isEmpty <;> exact hrules
  rcases hread with ⟨hversion, hcategories, hconstructors, hgroups, hrules⟩
  simp only [Option.bind_eq_bind, hversion, hcategories, hconstructors, horder, hcalls, hexempt,
    hgroups, hrules, Option.bind_some]
  rfl

/-!
# Written and read again
-/

/-- A configuration that was read from a document is found in the node of the data that is written
for it.  So where a document is written and read without loss, it is read again as itself. -/
theorem written_round_trip {source : String} {config : Config} (h : parse? source = some config) :
    ofNode? config.toData.toNode = some config ∧
      (Node.parse? (Yaml.render config.toData) = some config.toData.toNode →
        parse? (Yaml.render config.toData) = some config) := by
  rcases Option.bind_eq_some_iff.mp h with ⟨node, _, hnode⟩
  have hread := ofNode?_toData (inRange_of_ofNode? hnode)
  refine ⟨hread, ?_⟩
  intro hdocument
  rw [parse?, hdocument, Option.bind_some]
  exact hread

/-- The characters of a document that is given by its lines, without the detour over its bytes. -/
theorem ofText?_lines (lines : List String) :
    Tok.ofText? (String.join (lines.map (· ++ "\n"))) =
      Tok.ofChars? ((lines.map (· ++ "\n")).flatMap String.toList) :=
  congrArg Tok.ofChars? String.toList_join

/-- A configuration with a group of fields, a rule with fields of its own, a negative priority and
texts that have to be quoted. -/
theorem written_round_trip_quoted :
    let source := String.join (["version: 1", "categories:", "  order: [Callback]",
      "  calls: \x7bCallback: [action]\x7d", "  exempt: [latest]", "grouping:",
      "- section: 'true'", "  match: \x7bkind: Suffix, value: ' at'\x7d", "rules:", "- id: '7'",
      "  priority: -3", "  kind: Builtin", "  template: BareBooleanFlag",
      "  flags: [live, 'no']"].map (· ++ "\n"))
    let config : Config := {
      constructors := ["make"]
      order := [.callback]
      calls := fun category => if category = .callback then some ["action"] else none
      exempt := ["latest"]
      groups := [⟨"true", "Section", "schema", .endsWith " at", 2⟩]
      rules := [⟨"7", none, -3, true, .bareFlags ["live", "no"]⟩] }
    parse? source = some config ∧ ofNode? config.toData.toNode = some config ∧
      parse? (Yaml.render config.toData) = some config := by
  intro source config
  have h : parse? source = some config := by
    unfold source
    rw [parse?, Node.parse?, ofText?_lines]
    decide +kernel
  have hwritten : Yaml.render config.toData = String.join (["version: 1", "constructors:",
      "- make", "categories:", "  order:", "  - Callback", "  calls:", "    Callback:",
      "    - action", "  exempt:", "  - latest", "grouping:", "- section: 'true'",
      "  construct: Section", "  container: schema", "  match:", "    kind: Suffix",
      "    value: ' at'", "  min_fields: 2", "rules:", "- id: '7'", "  priority: -3",
      "  idempotent: true", "  kind: Builtin", "  template: BareBooleanFlag", "  flags:",
      "  - live", "  - no"].map (· ++ "\n")) := by
    decide +kernel
  have hdocument : Node.parse? (Yaml.render config.toData) = some config.toData.toNode := by
    rw [hwritten, Node.parse?, ofText?_lines]
    decide +kernel
  rcases written_round_trip h with ⟨hread, hagain⟩
  exact ⟨h, hread, hagain hdocument⟩

end Config

end FluentStyle
