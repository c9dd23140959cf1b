import FluentStyle.Proofs.Yaml.Numeral
import FluentStyle.Yaml.Access
import FluentStyle.Yaml.Printer

/-!
# Data read back

Data that is written as a document and read again is a node in which numbers and truth values are
plain scalars, and a text is one only where it cannot be taken for anything else.  The readers of
nodes find in such a node the data that it was made of.
-/

namespace FluentStyle

open Yaml

namespace Yaml.Node

def ofText (value : String) : Node :=
  .scalar none (TextStyle.ofText value = .plain) value

end Yaml.Node

mutual

/-- The node that data is in a document. -/
def Data.toNode : Data → Node
  | .null => .scalar none true "null"
  | .bool value => .scalar none true (if value then "true" else "false")
  | .int value => .scalar none true value.repr
  | .text value => .ofText value
  | .sequence items => .sequence none (Data.toNodes items)
  | .mapping entries => .mapping none (Data.toEntries entries)

def Data.toNodes : List Data → List Node
  | [] => []
  | item :: rest => item.toNode :: Data.toNodes rest

def Data.toEntries : List (String × Data) → List (Node × Node)
  | [] => []
  | (key, value) :: rest => (.ofText key, value.toNode) :: Data.toEntries rest

end

namespace Data

theorem toNode_text (value : String) : (text value).toNode = Node.ofText value :=
  rfl

theorem toNodes_eq_map (items : List Data) : toNodes items = items.map toNode := by
  induction items with
  | nil => rfl
  | cons item rest ih => rw [toNodes, ih, List.map_cons]

theorem toEntries_eq_map (entries : List (String × Data)) :
    toEntries entries = entries.map fun (key, value) => (Node.ofText key, value.toNode) := by
  induction entries with
  | nil => rfl
  | cons entry rest ih => rw [toEntries, ih, List.map_cons]

/-- The fields of a mapping with the nodes that their values are. -/
def toFields (entries : List (String × Data)) : List (String × Node) :=
  entries.map fun (key, value) => (key, value.toNode)

end Data

/-!
# Texts

A plain scalar that stands for a text stands for its own, and a text is written without quotes only
where it is read as that text.
-/

namespace Yaml

theorem Resolved.eq_of_ofPlain {text value : String} (h : Resolved.ofPlain text = .text value) :
    text = value := by
  unfold Resolved.ofPlain at h
  split at h
  · cases h
  · split at h
    · cases h
    · split at h
      · split at h <;> cases h
      · split at h
        · cases h
        · exact Resolved.text.inj h

theorem Resolved.int?_of_ofPlain {text value : String} (h : Resolved.ofPlain text = .text value) :
    Scalar.int? text = none := by
  unfold Resolved.ofPlain at h
  split at h
  · cases h
  · split at h
    · cases h
    · split at h
      · split at h <;> cases h
      · assumption

/-- A text is written without quotes only where it is read as that text. -/
theorem TextStyle.ofPlain_of_plain {text : String} (h : TextStyle.ofText text = .plain) :
    Resolved.ofPlain text = .text text := by
  have hclear : isAmbiguous text = false := by
    unfold TextStyle.ofText at h
    simp only at h
    split at h
    · split at h <;> cases h
    · split at h
      · rename_i hplain
        simpa using (Bool.and_eq_true_iff.mp hplain).1
      · split at h <;> cases h
  unfold isAmbiguous at hclear
  split at hclear
  · rename_i value hvalue
    rw [hvalue, Resolved.eq_of_ofPlain hvalue]
  · cases hclear

namespace Node

variable {value : String}

theorem resolved?_ofText (value : String) : (ofText value).resolved? = some (.text value) := by
  rw [ofText]
  by_cases hplain : TextStyle.ofText value = .plain
  · have hread := TextStyle.ofPlain_of_plain hplain
    have hshort : isOverlong value = false := by
      rw [isOverlong, Resolved.int?_of_ofPlain hread, Option.any_none]
    rw [decide_eq_true hplain, resolved?, hshort, hread]
    rfl
  · rw [decide_eq_false hplain, resolved?]

theorem text?_ofText (value : String) : (ofText value).text? = some value :=
  rfl

theorem dataText?_ofText (value : String) : (ofText value).dataText? = some value := by
  rw [dataText?, resolved?_ofText]

theorem optionalDataText?_ofText (value : String) :
    (ofText value).optionalDataText? = some (some value) := by
  rw [optionalDataText?, resolved?_ofText]

theorem optionalText?_ofText (value : String) :
    (ofText value).optionalText? = some (some value) := by
  have hkept : (decide (TextStyle.ofText value = .plain) && Scalar.isNull value) = false := by
    rw [Bool.and_eq_false_iff]
    by_cases hplain : TextStyle.ofText value = .plain
    · apply Or.inr
      have hread := TextStyle.ofPlain_of_plain hplain
      unfold Resolved.ofPlain at hread
      split at hread
      · cases hread
      · rename_i hnull
        simpa using hnull
    · exact Or.inl (decide_eq_false hplain)
  simp only [ofText, optionalText?, hkept, Bool.false_eq_true, if_false]

theorem oneOf?_ofText {names : List String} (h : value ∈ names) :
    (ofText value).oneOf? names = some value := by
  have hcontains : names.contains value = true := by simpa using h
  simp only [oneOf?, resolved?_ofText, hcontains, if_true]

/-!
# Numbers and truth values
-/

theorem int?_toNode (n : Int) : (Data.int n).toNode.int? = some n := by
  rw [Data.toNode, int?, plain?]
  exact Scalar.int?_repr n

theorem nat?_toNode (n : Nat) : (Data.int n).toNode.nat? = some n := by
  rw [Data.toNode, nat?, plain?]
  exact Scalar.nat?_repr n

theorem resolved?_toNode {n : Int} (h : intRange n = true) :
    (Data.int n).toNode.resolved? = some (.int n) := by
  have hshort : isOverlong n.repr = false := by
    rw [isOverlong, Scalar.int?_repr, Option.any_some, h, Bool.not_true, Bool.and_false]
  rw [Data.toNode, resolved?, hshort, Resolved.ofPlain_repr h]
  rfl

theorem intRange_of_lt {n : Nat} (h : n < UInt64.size) : intRange n = true := by
  simp only [intRange, Bool.and_eq_true, decide_eq_true_eq]
  omega

theorem dataNat?_toNode {n : Nat} (h : n < UInt64.size) :
    (Data.int n).toNode.dataNat? = some n := by
  rw [dataNat?, resolved?_toNode (intRange_of_lt h)]
  rfl

theorem bool?_toNode (value : Bool) : (Data.bool value).toNode.bool? = some value := by
  cases value <;> rfl

/-!
# Collections
-/

/-- Items that are each read as what they were made of are read as a list of it. -/
theorem mapM_map_eq_some {α β : Type} {write : α → β} {read : β → Option α} {items : List α}
    (h : ∀ item ∈ items, read (write item) = some item) :
    (items.map write).mapM read = some items := by
  induction items with
  | nil => rfl
  | cons item rest ih =>
      rcases List.forall_mem_cons.mp h with ⟨hitem, hrest⟩
      rw [List.map_cons, List.mapM_cons, hitem, ih hrest]
      rfl

theorem items?_toNode (items : List Data) :
    (Data.sequence items).toNode.items? = some (items.map Data.toNode) := by
  rw [Data.toNode, items?, Data.toNodes_eq_map]

theorem texts?_toNode (values : List String) : (Data.texts values).toNode.texts? = some values := by
  rw [texts?, Data.texts, items?_toNode, List.map_map]
  exact mapM_map_eq_some fun value _ => text?_ofText value

theorem dataTexts?_toNode (values : List String) :
    (Data.texts values).toNode.dataTexts? = some values := by
  rw [Data.texts, Data.toNode, dataTexts?, Data.toNodes_eq_map, List.map_map]
  exact mapM_map_eq_some fun value _ => dataText?_ofText value

theorem entries?_toNode (entries : List (String × Data)) :
    (Data.mapping entries).toNode.entries? =
      some (entries.map fun (key, value) => (ofText key, value.toNode)) := by
  rw [Data.toNode, entries?, Data.toEntries_eq_map]

theorem fields?_toNode (entries : List (String × Data)) :
    (Data.mapping entries).toNode.fields? = some (Data.toFields entries) := by
  rw [fields?, entries?_toNode, Data.toFields, Option.bind_some]
  induction entries with
  | nil => rfl
  | cons entry rest ih =>
      rw [List.map_cons, List.mapM_cons, List.map_cons, ih]
      rfl

theorem filterMap_toEntries (entries : List (String × Data)) :
    ((Data.toEntries entries).filterMap fun (key, value) => key.dataText?.map (·, value)) =
      Data.toFields entries := by
  induction entries with
  | nil => rfl
  | cons entry rest ih =>
      simp only [Data.toEntries, List.filterMap_cons, dataText?_ofText, Option.map_some, ih]
      rfl

theorem isData_ofText (value : String) : (ofText value).isData = true := by
  rw [ofText, isData, ← ofText, resolved?_ofText]
  rfl

theorem isData_toNode_texts (values : List String) : (Data.texts values).toNode.isData = true := by
  rw [Data.texts, Data.toNode, isData, Data.toNodes_eq_map, List.map_map]
  induction values with
  | nil => rfl
  | cons value rest ih =>
      rw [List.map_cons, areData, Bool.and_left_comm, ih, Bool.and_true]
      exact isData_ofText value

theorem isData_toNode_int {n : Int} (h : intRange n = true) :
    (Data.int n).toNode.isData = true := by
  have hresolved := resolved?_toNode h
  rw [Data.toNode] at hresolved ⊢
  rw [isData, hresolved]
  rfl

end Node

end Yaml

end FluentStyle
