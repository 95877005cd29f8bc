import DocLint.Yaml.Lexer

/-!
# From tokens to a tree

The nodes of one document.  Aliases are replaced by what they stand for; an anchor can be referred
to once its node is complete.  Where a key or a value is missing stands a plain `~`.  Every function
has an explicit budget, for which a multiple of the number of tokens is enough.
-/
namespace DocLint.Yaml

inductive Tag where
  | none
  | text
  | integer
  | float
  | bool
  | null
  | binary
  | unspecific
  | other
deriving DecidableEq, Repr

inductive Node where
  | scalar (tag : Tag) (style : ScalarStyle) (text : String)
  | sequence (items : List Node)
  | mapping (entries : List (Node × Node))

instance : Inhabited Node := ⟨.sequence []⟩

def Node.missing : Node := .scalar .none .plain "~"

/-- An anchor, with its node once that is complete. -/
structure Anchor where
  name : String
  number : Nat
  node : Option Node

/-- The tokens to come, the handles that are declared and the anchors, the latest first. -/
structure Stream where
  tokens : List Token
  handles : List (String × String)
  anchors : List Anchor

structure Properties where
  tag : Option Tag := none
  anchor : Option Nat := none

namespace Stream

def drop (s : Stream) (n : Nat) : Stream := { s with tokens := s.tokens.drop n }

def lookup (s : Stream) (name : String) : Except Fault Node :=
  match (s.anchors.find? fun a => a.name == name).bind (·.node) with
  | some node => .ok node
  | none => .error .unknownAnchor

def startAnchor (s : Stream) (name : String) : Stream × Nat :=
  ({ s with anchors := ⟨name, s.anchors.length, none⟩ :: s.anchors }, s.anchors.length)

def complete (s : Stream) (number : Option Nat) (node : Node) : Stream :=
  match number with
  | none => s
  | some n => { s with
      anchors := s.anchors.map fun a => if a.number == n then { a with node := some node } else a }

end Stream

def commonTags : String := "tag:yaml.org,2002:"

def tagNamed (name : String) : Tag :=
  if name == "!" then .unspecific
  else if name == commonTags ++ "str" then .text
  else if name == commonTags ++ "int" then .integer
  else if name == commonTags ++ "float" then .float
  else if name == commonTags ++ "bool" then .bool
  else if name == commonTags ++ "null" then .null
  else if name == commonTags ++ "binary" then .binary
  else .other

def Stream.resolveTag (s : Stream) (handle suffix : String) : Except Fault Tag :=
  match s.handles.find? fun h => h.1 == handle with
  | some (_, expansion) => .ok (tagNamed (expansion ++ suffix))
  | none =>
    if handle == "!!" then .ok (tagNamed (commonTags ++ suffix))
    else if 2 ≤ handle.length then .error .undeclaredHandle
    else .ok (tagNamed (handle ++ suffix))

/-- Read the properties of a node: an anchor and a tag in either order. -/
def readProperties (s : Stream) : Except Fault (Properties × Stream) := do
  match s.tokens with
  | .anchor name :: .tag handle suffix :: _ =>
    let (s, number) := s.startAnchor name
    return (⟨some (← s.resolveTag handle suffix), some number⟩, s.drop 2)
  | .anchor name :: _ =>
    let (s, number) := s.startAnchor name
    return (⟨none, some number⟩, s.drop 1)
  | .tag handle suffix :: .anchor name :: _ =>
    let tag ← s.resolveTag handle suffix
    let (s, number) := s.startAnchor name
    return (⟨some tag, some number⟩, s.drop 2)
  | .tag handle suffix :: _ => return (⟨some (← s.resolveTag handle suffix), none⟩, s.drop 1)
  | _ => return ({}, s)

/-- Whether the next token shows that a key or value in a block is missing. -/
def endsBlockPart : List Token → Bool
  | .key :: _ => true
  | .value :: _ => true
  | .blockEnd :: _ => true
  | _ => false

def endsBlockItem : List Token → Bool
  | .blockEntry :: _ => true
  | .blockEnd :: _ => true
  | _ => false

def endsFlowKey : List Token → Bool
  | .value :: _ => true
  | .flowEntry :: _ => true
  | .flowMappingEnd :: _ => true
  | .flowSequenceEnd :: _ => true
  | _ => false

def endsFlowValue : List Token → Bool
  | .flowEntry :: _ => true
  | .flowMappingEnd :: _ => true
  | .flowSequenceEnd :: _ => true
  | _ => false

def faultOr (f : Fault) : List Token → Fault
  | .fault g :: _ => g
  | _ => f

mutual
/-- Read a node.  `block` says whether it may be a block, `indentless` whether it may be a sequence
that is not indented. -/
def readNode (block indentless : Bool) : Nat → Stream → Except Fault (Node × Stream)
  | 0, _ => .error .tooDeep
  | budget + 1, s =>
    match s.tokens with
    | .alias name :: _ => (s.lookup name).map fun node => (node, s.drop 1)
    | _ => do
      let (properties, s) ← readProperties s
      let (node, s) ← readContent block indentless properties budget s
      return (node, s.complete properties.anchor node)

def readContent (block indentless : Bool) (properties : Properties) :
    Nat → Stream → Except Fault (Node × Stream)
  | 0, _ => .error .tooDeep
  | budget + 1, s => do
    let tag := properties.tag.getD .none
    match s.tokens, block, indentless with
    | .blockEntry :: _, _, true =>
      let (items, s) ← readIndentless budget s
      return (.sequence items, s)
    | .scalar style text :: _, _, _ => return (.scalar tag style text, s.drop 1)
    | .flowSequenceStart :: _, _, _ =>
      let (items, s) ← readFlowItems true budget (s.drop 1)
      return (.sequence items, s)
    | .flowMappingStart :: _, _, _ =>
      let (entries, s) ← readFlowEntries true budget (s.drop 1)
      return (.mapping entries, s)
    | .blockSequenceStart :: _, true, _ =>
      let (items, s) ← readBlockItems budget (s.drop 1)
      return (.sequence items, s)
    | .blockMappingStart :: _, true, _ =>
      let (entries, s) ← readBlockEntries budget (s.drop 1)
      return (.mapping entries, s)
    | .fault f :: _, _, _ => .error f
    | _, _, _ =>
      if properties.tag.isSome || properties.anchor.isSome then
        return (.scalar tag .plain "", s)
      else .error .noContent

def readBlockItems : Nat → Stream → Except Fault (List Node × Stream)
  | 0, _ => .error .tooDeep
  | budget + 1, s => do
    match s.tokens with
    | .blockEnd :: _ => return ([], s.drop 1)
    | .blockEntry :: rest =>
      let (item, s) ←
        if endsBlockItem rest then pure (Node.missing, s.drop 1)
        else readNode true false budget (s.drop 1)
      let (items, s) ← readBlockItems budget s
      return (item :: items, s)
    | tokens => .error (faultOr .entryNotAllowed tokens)

/-- Read the entries of a sequence that is not indented; it ends where no entry follows. -/
def readIndentless : Nat → Stream → Except Fault (List Node × Stream)
  | 0, _ => .error .tooDeep
  | budget + 1, s => do
    match s.tokens with
    | .blockEntry :: rest =>
      let (item, s) ←
        if endsBlockItem rest || endsBlockPart rest then pure (Node.missing, s.drop 1)
        else readNode true false budget (s.drop 1)
      let (items, s) ← readIndentless budget s
      return (item :: items, s)
    | .fault f :: _ => .error f
    | _ => return ([], s)

def readBlockEntries : Nat → Stream → Except Fault (List (Node × Node) × Stream)
  | 0, _ => .error .tooDeep
  | budget + 1, s => do
    match s.tokens with
    | .blockEnd :: _ => return ([], s.drop 1)
    | .key :: rest =>
      let (key, s) ←
        if endsBlockPart rest then pure (Node.missing, s.drop 1)
        else readNode true true budget (s.drop 1)
      let (value, s) ← readBlockValue budget s
      let (entries, s) ← readBlockEntries budget s
      return ((key, value) :: entries, s)
    | .value :: _ =>
      let (value, s) ← readBlockValue budget s
      let (entries, s) ← readBlockEntries budget s
      return ((Node.missing, value) :: entries, s)
    | tokens => .error (faultOr .keyNotAllowed tokens)

def readBlockValue : Nat → Stream → Except Fault (Node × Stream)
  | 0, _ => .error .tooDeep
  | budget + 1, s =>
    match s.tokens with
    | .value :: rest =>
      if endsBlockPart rest then .ok (Node.missing, s.drop 1)
      else readNode true true budget (s.drop 1)
    | .fault f :: _ => .error f
    | _ => .ok (Node.missing, s)

/-- Read the items of a sequence in brackets up to its end; a key makes a mapping of one entry. -/
def readFlowItems (first : Bool) : Nat → Stream → Except Fault (List Node × Stream)
  | 0, _ => .error .tooDeep
  | budget + 1, s => do
    let s ←
      match s.tokens, first with
      | .flowSequenceEnd :: _, _ => return ([], s.drop 1)
      | _, true => pure s
      | .flowEntry :: _, false => pure (s.drop 1)
      | tokens, false => .error (faultOr .unclosedCollection tokens)
    match s.tokens with
    | .flowSequenceEnd :: _ => return ([], s.drop 1)
    | .key :: rest =>
      let (key, s) ←
        if endsFlowKey rest then pure (Node.missing, s.drop 1)
        else readNode false false budget (s.drop 1)
      let (value, s) ← readFlowValue budget s
      let (items, s) ← readFlowItems false budget s
      return (.mapping [(key, value)] :: items, s)
    | _ =>
      let (item, s) ← readNode false false budget s
      let (items, s) ← readFlowItems false budget s
      return (item :: items, s)

/-- Read the entries of a mapping in brackets up to its end; a key may come alone. -/
def readFlowEntries (first : Bool) : Nat → Stream → Except Fault (List (Node × Node) × Stream)
  | 0, _ => .error .tooDeep
  | budget + 1, s => do
    let s ←
      match s.tokens, first with
      | .flowMappingEnd :: _, _ => return ([], s.drop 1)
      | _, true => pure s
      | .flowEntry :: _, false => pure (s.drop 1)
      | tokens, false => .error (faultOr .unclosedCollection tokens)
    match s.tokens with
    | .flowMappingEnd :: _ => return ([], s.drop 1)
    | .key :: rest =>
      let (key, s) ←
        if endsFlowKey rest then pure (Node.missing, s.drop 1)
        else readNode false false budget (s.drop 1)
      let (value, s) ← readFlowValue budget s
      let (entries, s) ← readFlowEntries false budget s
      return ((key, value) :: entries, s)
    | .value :: _ =>
      let (value, s) ← readFlowValue budget s
      let (entries, s) ← readFlowEntries false budget s
      return ((Node.missing, value) :: entries, s)
    | _ =>
      let (key, s) ← readNode false false budget s
      let (entries, s) ← readFlowEntries false budget s
      return ((key, Node.missing) :: entries, s)

def readFlowValue : Nat → Stream → Except Fault (Node × Stream)
  | 0, _ => .error .tooDeep
  | budget + 1, s =>
    match s.tokens with
    | .value :: rest =>
      if endsFlowValue rest then .ok (Node.missing, s.drop 1)
      else readNode false false budget (s.drop 1)
    | .fault f :: _ => .error f
    | _ => .ok (Node.missing, s)
end

/-! ## Documents -/

/-- Read the directives in front of a document; each may be given once. -/
def readDirectives (version : Bool) (handles : List (String × String)) :
    List Token → Except Fault (List (String × String) × List Token)
  | .versionDirective :: rest =>
    if version then .error .badDirective else readDirectives true handles rest
  | .tagDirective handle expansion :: rest =>
    if handles.any fun h => h.1 == handle then .error .badDirective
    else readDirectives version ((handle, expansion) :: handles) rest
  | tokens => .ok (handles, tokens)

def dropDocumentEnds : List Token → List Token
  | .documentEnd :: rest => dropDocumentEnds rest
  | tokens => tokens

/-- Whether a document that was announced by dashes holds nothing. -/
def endsDocument : List Token → Bool
  | .versionDirective :: _ => true
  | .tagDirective _ _ :: _ => true
  | .documentStart :: _ => true
  | .documentEnd :: _ => true
  | .streamEnd :: _ => true
  | _ => false

/-- Refuse a further document.  A fault behind the end of the document does no harm. -/
def checkAfter (marked : Bool) (tokens : List Token) : Except Fault Unit :=
  match dropDocumentEnds tokens with
  | .streamEnd :: _ => .ok ()
  | .fault _ :: _ => .ok ()
  | .documentStart :: .fault _ :: _ => .ok ()
  | .documentStart :: _ => .error .severalDocuments
  | _ => if marked then .error .severalDocuments else .ok ()

def checkEnd : List Token → Except Fault Unit
  | .fault f :: _ => .error f
  | .documentEnd :: rest => checkAfter true rest
  | .versionDirective :: _ => .error .badDirective
  | .tagDirective _ _ :: _ => .error .badDirective
  | tokens => checkAfter false tokens

/-- The only document of a text; an empty stream holds a missing node. -/
def Node.ofTokens (tokens : List Token) : Except Fault Node := do
  let budget := 4 * tokens.length + 8
  let tokens := dropDocumentEnds tokens
  match tokens with
  | .streamEnd :: _ => return .missing
  | .fault f :: _ => .error f
  | _ =>
    let (handles, rest) ← readDirectives false [] tokens
    let declared := !endsDocument tokens
    let (node, s) ←
      match rest with
      | .documentStart :: content =>
        if endsDocument content then pure (Node.missing, ⟨content, handles, []⟩)
        else readNode true false budget ⟨content, handles, []⟩
      | _ =>
        if declared then readNode true false budget ⟨rest, handles, []⟩
        else .error (faultOr .noDocumentStart rest)
    checkEnd s.tokens
    return node

end DocLint.Yaml
