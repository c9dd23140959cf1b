import FluentStyle.Yaml.Node
import FluentStyle.Yaml.Token

/-!
# Reading YAML documents

The tokens of a document are read as a node.  An alias is replaced by the node that its anchor was
last given to.  Each reader takes a bound on the tokens it may still read.
-/

namespace FluentStyle.Yaml

/-- What is known while the nodes of a document are read: the handles of tags, and the anchors, the
last one first. -/
structure Names where
  handles : List (List Char × List Char)
  anchors : List (List Char × Node)

/-- What a reader leaves: a result, the anchors known so far, and the tokens after it. -/
structure Reading (α : Type) where
  result : α
  anchors : List (List Char × Node)
  rest : List Tok

namespace Node

/-!
# Properties of nodes

The anchor and the tag in front of a node are in either order, and the handle of a tag has to be
known.
-/

def empty (tag : Option String) : Node :=
  .scalar tag true ""

def tagText? (handles : List (List Char × List Char)) (handle rest : List Char) : Option String :=
  match handles.lookup handle with
  | some start => some (String.ofList (start ++ rest))
  | none =>
      match handle with
      | [] => some (String.ofList rest)
      | ['!'] => some (String.ofList ('!' :: rest))
      | ['!', '!'] => some (String.ofList ("tag:yaml.org,2002:".toList ++ rest))
      | _ => none

def properties? (handles : List (List Char × List Char)) :
    List Tok → Option (Option (List Char) × Option String × List Tok)
  | .anchor name :: .tag handle text :: rest =>
      (tagText? handles handle text).map fun tag => (some name, some tag, rest)
  | .tag handle text :: .anchor name :: rest =>
      (tagText? handles handle text).map fun tag => (some name, some tag, rest)
  | .anchor name :: rest => some (some name, none, rest)
  | .tag handle text :: rest =>
      (tagText? handles handle text).map fun tag => (none, some tag, rest)
  | rest => some (none, none, rest)

def nextIs (tokens : List Tok) (rest : List Tok) : Bool :=
  rest.head?.any tokens.contains

/-!
# Nodes

Entries of block collections are read up to their end, and those in brackets and braces up to the
closing one.  An item in brackets may be a pair with a colon.
-/

mutual

/-- Reads a node.  Outside of brackets it may be a block collection, and after the colon or the
question mark of a mapping a sequence that is not indented further. -/
def read? (block unindented : Bool) (names : Names) : Nat → List Tok → Option (Reading Node)
  | 0, _ => none
  | fuel + 1, tokens =>
      match tokens with
      | .alias name :: rest =>
          (names.anchors.lookup name).map fun node => ⟨node, names.anchors, rest⟩
      | _ =>
          match properties? names.handles tokens with
          | none => none
          | some (anchor, tag, rest) =>
              let read : Option (Reading Node) := match rest with
                | .scalar plain text :: rest =>
                    some ⟨.scalar tag plain text, names.anchors, rest⟩
                | .flowSequence :: rest => readFlowSequence? tag true names [] fuel rest
                | .flowMapping :: rest => readFlowMapping? tag true names [] fuel rest
                | .blockSequence :: rest =>
                    if block then readBlockSequence? tag names [] fuel rest else none
                | .blockMapping :: rest =>
                    if block then readBlockMapping? tag names [] fuel rest else none
                | rest =>
                    if unindented && nextIs [.entry] rest then
                      readEntries? tag names [] fuel rest
                    else if anchor.isSome || tag.isSome then
                      some ⟨empty tag, names.anchors, rest⟩
                    else none
              match anchor, read with
              | some name, some ⟨node, anchors, rest⟩ =>
                  -- An anchor within the node counts as later than that of the node itself.
                  let inner := anchors.take (anchors.length - names.anchors.length)
                  some ⟨node, inner ++ (name, node) :: names.anchors, rest⟩
              | _, read => read

def readUnless? (stops : List Tok) (block unindented : Bool) (names : Names) :
    Nat → List Tok → Option (Reading Node)
  | 0, _ => none
  | fuel + 1, tokens =>
      if nextIs stops tokens then some ⟨empty none, names.anchors, tokens⟩
      else read? block unindented names fuel tokens

def readBlockSequence? (tag : Option String) (names : Names) (items : List Node) :
    Nat → List Tok → Option (Reading Node)
  | 0, _ => none
  | fuel + 1, tokens =>
      match tokens with
      | .blockEnd :: rest => some ⟨.sequence tag items, names.anchors, rest⟩
      | .entry :: rest =>
          match readUnless? [.entry, .blockEnd] true false names fuel rest with
          | none => none
          | some ⟨item, anchors, rest⟩ =>
              readBlockSequence? tag { names with anchors } (items ++ [item]) fuel rest
      | _ => none

def readEntries? (tag : Option String) (names : Names) (items : List Node) :
    Nat → List Tok → Option (Reading Node)
  | 0, _ => none
  | fuel + 1, tokens =>
      match tokens with
      | .entry :: rest =>
          match readUnless? [.entry, .key, .value, .blockEnd] true false names fuel rest with
          | none => none
          | some ⟨item, anchors, rest⟩ =>
              readEntries? tag { names with anchors } (items ++ [item]) fuel rest
      | rest => some ⟨.sequence tag items, names.anchors, rest⟩

def readValue? (stops : List Tok) (block : Bool) (names : Names) :
    Nat → List Tok → Option (Reading Node)
  | 0, _ => none
  | fuel + 1, tokens =>
      match tokens with
      | .value :: rest => readUnless? stops block block names fuel rest
      | rest => some ⟨empty none, names.anchors, rest⟩

def readBlockMapping? (tag : Option String) (names : Names) (entries : List (Node × Node)) :
    Nat → List Tok → Option (Reading Node)
  | 0, _ => none
  | fuel + 1, tokens =>
      let entry? (key : Option (Reading Node)) : Option (Reading Node) :=
        match key with
        | none => none
        | some ⟨key, anchors, rest⟩ =>
            match readValue? [.key, .value, .blockEnd] true { names with anchors } fuel rest with
            | none => none
            | some ⟨value, anchors, rest⟩ =>
                readBlockMapping? tag { names with anchors } (entries ++ [(key, value)]) fuel rest
      match tokens with
      | .blockEnd :: rest => some ⟨.mapping tag entries, names.anchors, rest⟩
      | .key :: rest =>
          entry? (readUnless? [.key, .value, .blockEnd] true true names fuel rest)
      | .value :: rest => entry? (some ⟨empty none, names.anchors, .value :: rest⟩)
      | _ => none

/-- Reads the items of a sequence in brackets up to its end.  An item may be a pair with a colon. -/
def readFlowSequence? (tag : Option String) (first : Bool) (names : Names) (items : List Node) :
    Nat → List Tok → Option (Reading Node)
  | 0, _ => none
  | fuel + 1, tokens =>
      let item? (tokens : List Tok) : Option (Reading Node) :=
        match tokens with
        | .flowSequenceEnd :: rest => some ⟨.sequence tag items, names.anchors, rest⟩
        | .key :: rest =>
            match readUnless? [.value, .comma, .flowSequenceEnd] false false names fuel rest with
            | none => none
            | some ⟨key, anchors, rest⟩ =>
                match readValue? [.comma, .flowSequenceEnd] false { names with anchors } fuel
                    rest with
                | none => none
                | some ⟨value, anchors, rest⟩ =>
                    readFlowSequence? tag false { names with anchors }
                      (items ++ [.mapping none [(key, value)]]) fuel rest
        | tokens =>
            match read? false false names fuel tokens with
            | none => none
            | some ⟨item, anchors, rest⟩ =>
                readFlowSequence? tag false { names with anchors } (items ++ [item]) fuel rest
      match first, tokens with
      | _, .flowSequenceEnd :: rest => some ⟨.sequence tag items, names.anchors, rest⟩
      | false, .comma :: rest => item? rest
      | false, _ => none
      | true, tokens => item? tokens

def readFlowMapping? (tag : Option String) (first : Bool) (names : Names)
    (entries : List (Node × Node)) : Nat → List Tok → Option (Reading Node)
  | 0, _ => none
  | fuel + 1, tokens =>
      let entry? (tokens : List Tok) : Option (Reading Node) :=
        match tokens with
        | .flowMappingEnd :: rest => some ⟨.mapping tag entries, names.anchors, rest⟩
        | .key :: rest =>
            match readUnless? [.value, .comma, .flowMappingEnd] false false names fuel rest with
            | none => none
            | some ⟨key, anchors, rest⟩ =>
                match readValue? [.comma, .flowMappingEnd] false { names with anchors } fuel
                    rest with
                | none => none
                | some ⟨value, anchors, rest⟩ =>
                    readFlowMapping? tag false { names with anchors } (entries ++ [(key, value)])
                      fuel rest
        | tokens =>
            match read? false false names fuel tokens with
            | none => none
            | some ⟨key, anchors, rest⟩ =>
                readFlowMapping? tag false { names with anchors }
                  (entries ++ [(key, empty none)]) fuel rest
      match first, tokens with
      | _, .flowMappingEnd :: rest => some ⟨.mapping tag entries, names.anchors, rest⟩
      | false, .comma :: rest => entry? rest
      | false, _ => none
      | true, tokens => entry? tokens

end

/-!
# Documents

In front of a document there is at most one version, and a handle is declared at most once.  A text
holds one document.
-/

def directives? (versioned : Bool) (handles : List (List Char × List Char)) :
    List Tok → Option (List (List Char × List Char) × List Tok)
  | .version :: rest => if versioned then none else directives? true handles rest
  | .handle name resolved :: rest =>
      if (handles.lookup name).isSome then none
      else directives? versioned ((name, resolved) :: handles) rest
  | rest => some (handles, rest)

def parse? (source : String) : Option Node :=
  match Tok.ofText? source with
  | none => none
  | some tokens =>
      -- Signs of an end in front of the document do not count.
      match directives? false [] tokens with
      | none => none
      | some (handles, rest) =>
          let started : Option (List Tok) := match tokens, rest with
            | _, .documentStart :: rest => some rest
            | .version :: _, _ | .handle _ _ :: _, _ => none
            | _, [] => none
            | _, rest => some rest
          match started with
          | none => none
          | some rest =>
              match readUnless? [.version, .documentStart, .documentEnd] true false ⟨handles, []⟩
                  (4 * rest.length + 8) rest with
              | some ⟨node, _, rest⟩ =>
                  if rest.all (· = .documentEnd) then some node else none
              | none =>
                  -- A document may be empty.
                  if rest.all (· = .documentEnd) then some (empty none) else none

end Node

end FluentStyle.Yaml
