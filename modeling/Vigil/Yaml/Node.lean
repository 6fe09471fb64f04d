import Vigil.Yaml.Token

/-!
# Nodes

The nodes of a document, put together from its tokens. An alias stands for the
node that was given its name last. A node that holds an alias of itself has no end
and is refused.
-/

namespace Vigil.Yaml

/-- A node of a document. -/
inductive Node where
  | scalar (text : List Char) (plain : Bool) (tag : List Char)
  | list (tag : List Char) (items : List Node)
  | map (tag : List Char) (entries : List (Node × Node))
  | alias (target : Node)
deriving Inhabited

/-- A named node; it is missing until it is complete. -/
structure Anchor where
  name : List Char
  number : Nat
  node : Option Node

/-- The state of the reader of nodes. -/
structure Document where
  tokens : List Token
  /-- The named nodes, last one first. -/
  anchors : List Anchor
  /-- The meaning of tag handles. -/
  handles : List (List Char × List Char)

/-- A reader of a part of a document. -/
abbrev Part (α : Type) := Document → Option (α × Document)

namespace Document

/-- The next token. -/
def peek (d : Document) : Option Token := d.tokens.head?

/-- Passes over a token. -/
def skip (d : Document) : Document := { d with tokens := d.tokens.tail }

/-- The next token is the given one. -/
def sees (d : Document) (token : Token) : Bool := d.tokens.head? = some token

/-- The next token is one of the given ones. -/
def seesAny (d : Document) (tokens : List Token) : Bool := d.tokens.head?.any tokens.contains

/-- A node that is not written. -/
def emptyNode : Node := .scalar [] true []

/-- The name and the tag in front of a node, in either order. -/
structure Properties where
  anchor : Option (List Char)
  tag : Option (List Char × List Char)

/-- Reads the name and the tag in front of a node. -/
def properties (d : Document) : Properties × Document :=
  match d.tokens with
  | .anchor name :: .tag handle suffix :: rest =>
      (⟨some name, some (handle, suffix)⟩, { d with tokens := rest })
  | .tag handle suffix :: .anchor name :: rest =>
      (⟨some name, some (handle, suffix)⟩, { d with tokens := rest })
  | .anchor name :: rest => (⟨some name, none⟩, { d with tokens := rest })
  | .tag handle suffix :: rest => (⟨none, some (handle, suffix)⟩, { d with tokens := rest })
  | _ => (⟨none, none⟩, d)

/-- The whole tag of a handle and a suffix. -/
def resolveTag (d : Document) : Option (List Char × List Char) → Option (List Char)
  | none => some []
  | some ([], suffix) => some suffix
  | some (handle, suffix) =>
      (d.handles.find? fun entry => entry.1 = handle).map fun entry => entry.2 ++ suffix

/-- Names a node before it is read. -/
def openAnchor (d : Document) : Option (List Char) → Document
  | none => d
  | some name => { d with anchors := ⟨name, d.anchors.length, none⟩ :: d.anchors }

/-- Completes the named node of a number. -/
def closeAnchor (number : Nat) (name : Option (List Char)) (node : Node) (d : Document) : Document :=
  if name.isNone then d
  else
    { d with anchors := d.anchors.map fun a => if a.number = number then { a with node := some node } else a }

/-- The node of an alias, if it is complete. -/
def aliasOf (d : Document) (name : List Char) : Option Node := do
  (← d.anchors.find? fun a => a.name = name).node

/-- Reads a node, or an empty one where a token stands that cannot begin one. -/
def nodeUnless (stops : List Token) (read : Part Node) : Part Node := fun d =>
  if d.seesAny stops then some (emptyNode, d) else read d

/-- Reads the entries of a block sequence up to its end. -/
def blockItems (read : Part Node) : Nat → Part (List Node)
  | 0, _ => none
  | fuel + 1, d =>
      if d.sees .blockEnd then some ([], d.skip)
      else if d.sees .entry then do
        let (item, d) ← nodeUnless [.entry, .blockEnd] read d.skip
        let (items, d) ← blockItems read fuel d
        some (item :: items, d)
      else none

/-- Reads the entries of a sequence that is indented like the mapping around it. -/
def sameIndentItems (read : Part Node) : Nat → Part (List Node)
  | 0, _ => none
  | fuel + 1, d =>
      if d.sees .entry then do
        let (item, d) ← nodeUnless [.entry, .key, .value, .blockEnd] read d.skip
        let (items, d) ← sameIndentItems read fuel d
        some (item :: items, d)
      else some ([], d)

/-- Reads the entries of a block mapping up to its end. -/
def blockEntries (read : Part Node) : Nat → Part (List (Node × Node))
  | 0, _ => none
  | fuel + 1, d =>
      let stops := [Token.key, .value, .blockEnd]
      let value : Part Node := fun d =>
        if d.sees .value then nodeUnless stops read d.skip else some (emptyNode, d)
      if d.sees .blockEnd then some ([], d.skip)
      else if d.sees .key then do
        let (key, d) ← nodeUnless stops read d.skip
        let (v, d) ← value d
        let (entries, d) ← blockEntries read fuel d
        some ((key, v) :: entries, d)
      else none

/-- Reads the value of an entry in braces or brackets. -/
def flowValue (stops : List Token) (read : Part Node) : Part Node := fun d =>
  if d.sees .value then nodeUnless stops read d.skip else some (emptyNode, d)

/-- Reads the items of a list in brackets up to its end. A key alone is a mapping of one entry. -/
def flowItems (read : Part Node) : Nat → Bool → Part (List Node)
  | 0, _, _ => none
  | fuel + 1, first, d =>
      if d.sees .closeList then some ([], d.skip)
      else if !first && !d.sees .comma then none
      else
        let d := if first then d else d.skip
        if d.sees .closeList then some ([], d.skip)
        else if d.sees .key then do
          let (key, d) ← nodeUnless [.value, .comma, .closeList] read d.skip
          let (v, d) ← flowValue [.comma, .closeList] read d
          let (items, d) ← flowItems read fuel false d
          some (.map [] [(key, v)] :: items, d)
        else do
          let (item, d) ← read d
          let (items, d) ← flowItems read fuel false d
          some (item :: items, d)

/-- Reads the entries of a mapping in braces up to its end. -/
def flowEntries (read : Part Node) : Nat → Bool → Part (List (Node × Node))
  | 0, _, _ => none
  | fuel + 1, first, d =>
      if d.sees .closeMap then some ([], d.skip)
      else if !first && !d.sees .comma then none
      else
        let d := if first then d else d.skip
        if d.sees .closeMap then some ([], d.skip)
        else if d.sees .key then do
          let (key, d) ← nodeUnless [.value, .comma, .closeMap] read d.skip
          let (v, d) ← flowValue [.comma, .closeMap] read d
          let (entries, d) ← flowEntries read fuel false d
          some ((key, v) :: entries, d)
        else do
          let (key, d) ← read d
          let (entries, d) ← flowEntries read fuel false d
          some ((key, emptyNode) :: entries, d)

/-- Reads a node; `block` allows blocks, and `sameIndent` a sequence without indentation. -/
def node : Nat → Bool → Bool → Part Node
  | 0, _, _, _ => none
  | fuel + 1, block, sameIndent, d =>
      match d.tokens with
      | .alias name :: _ => (d.aliasOf name).map fun target => (.alias target, d.skip)
      | _ => do
          let (p, d) := d.properties
          let tag ← d.resolveTag p.tag
          let number := d.anchors.length
          let d := d.openAnchor p.anchor
          let size := d.tokens.length + 1
          let inside := node fuel true false
          let flow := node fuel false false
          let done (found : Node × Document) : Node × Document :=
            (found.1, found.2.closeAnchor number p.anchor found.1)
          match d.tokens with
          | .scalar text plain :: _ => some (done (.scalar text plain tag, d.skip))
          | .openList :: _ =>
              (flowItems flow size true d.skip).map fun r => done (.list tag r.1, r.2)
          | .openMap :: _ =>
              (flowEntries flow size true d.skip).map fun r => done (.map tag r.1, r.2)
          | .entry :: _ =>
              if sameIndent then
                (sameIndentItems inside size d).map fun r => done (.list tag r.1, r.2)
              else if p.anchor.isSome ∨ p.tag.isSome then some (done (.scalar [] true tag, d))
              else none
          | .blockSequence :: _ =>
              if block then (blockItems inside size d.skip).map fun r => done (.list tag r.1, r.2)
              else none
          | .blockMapping :: _ =>
              if block then
                (blockEntries (node fuel true true) size d.skip).map fun r =>
                  done (.map tag r.1, r.2)
              else none
          | _ =>
              if p.anchor.isSome ∨ p.tag.isSome then some (done (.scalar [] true tag, d)) else none

/-- The handles that every document has. -/
def standardHandles : List (List Char × List Char) :=
  [(['!'], ['!']), (['!', '!'], "tag:yaml.org,2002:".toList)]

/-- Reads the directives of a document: one version at most, and each tag handle once. -/
def directives (version : Bool) (handles : List (List Char × List Char)) :
    List Token → Option (Bool × List (List Char × List Char) × List Token)
  | .version major minor :: rest =>
      if version ∨ major ≠ 1 ∨ (minor ≠ 1 ∧ minor ≠ 2) then none
      else directives true handles rest
  | .tagHandle handle text :: rest =>
      if handles.any fun entry => entry.1 = handle then none
      else directives version ((handle, text) :: handles) rest
  | rest => some (version || !handles.isEmpty, handles, rest)

/-- The one node of a stream of tokens; a stream without a document has none. -/
def ofTokens (tokens : List Token) : Option (Option Node) := do
  let (directed, handles, rest) ← directives false [] tokens
  let size := tokens.length + 1
  let finish (root : Node) (d : Document) : Option (Option Node) :=
    if (d.tokens.dropWhile (· = .documentEnd)).isEmpty then some (some root) else none
  match rest with
  | [] => if directed then none else some none
  | .documentStart :: body =>
      let d : Document := ⟨body, [], handles ++ standardHandles⟩
      match body with
      | [] => some (some emptyNode)
      | .documentEnd :: _ => finish emptyNode d
      | .documentStart :: _ => none
      | _ => (node size true false d).bind fun found => finish found.1 found.2
  | _ =>
      if directed then none
      else (node size true false ⟨rest, [], standardHandles⟩).bind fun found => finish found.1 found.2

end Document

end Vigil.Yaml
