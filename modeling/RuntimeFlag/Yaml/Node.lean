import RuntimeFlag.Yaml.Token
/-!
# Nodes of a YAML document

A document is a tree of scalars, sequences and mappings. A node may be named, and an alias stands
for the node with its name; names are kept as numbers.
-/
namespace RuntimeFlag.Yaml

inductive Node
  | scalar (style : ScalarStyle) (tag : Option (List Char)) (text : List Char)
  | sequence (items : List Node)
  | mapping (entries : List (Node × Node))
  | named (number : Nat) (node : Node)
  | alias (number : Nat)
  deriving Inhabited

/-- A node that is left out. -/
def Node.empty : Node := .scalar .plain none []

/-- What is left of the tokens, and what is known of names and tags. -/
structure Assembly where
  tokens : List Token
  /-- The numbers of names. -/
  names : List (List Char × Nat)
  /-- What tag handles stand for. -/
  handles : List (List Char × List Char)

namespace Assembly

private def peek (a : Assembly) : Option Token := a.tokens.head?

private def skip (a : Assembly) : Assembly := { a with tokens := a.tokens.tail }

/-- Gives a name the next number: the count of different names so far. -/
private def addName (a : Assembly) (name : List Char) : Nat × Assembly :=
  let number := a.names.length
  (number, { a with names := (name, number) :: a.names.filter (·.1 ≠ name) })

private def numberOf? (a : Assembly) (name : List Char) : Option Nat := a.names.lookup name

private def tagOf (a : Assembly) (tag : TagText) : Except Fault (List Char) :=
  if tag.handle.isEmpty then .ok tag.suffix
  else match a.handles.lookup tag.handle with
    | some start => .ok (start ++ tag.suffix)
    | none => .error .unknownTagHandle

/-- Reads the name and the tag before a node, in either order. -/
private def properties (a : Assembly) : Option (List Char) × Option TagText × Assembly :=
  match a.tokens with
  | .anchor name :: .tag tag :: rest => (some name, some tag, { a with tokens := rest })
  | .tag tag :: .anchor name :: rest => (some name, some tag, { a with tokens := rest })
  | .anchor name :: rest => (some name, none, { a with tokens := rest })
  | .tag tag :: rest => (none, some tag, { a with tokens := rest })
  | _ => (none, none, a)

private def endsBlockNode : Option Token → Bool
  | none => false
  | some token => token = .key || token = .value || token = .blockEnd

private def endsBlockItem (a : Assembly) : Bool :=
  a.peek = some .blockEntry || a.peek = some .blockEnd

private def endsIndentlessItem (a : Assembly) : Bool :=
  a.peek = some .blockEntry || endsBlockNode a.peek

private def endsFlowKey (close : Token) (a : Assembly) : Bool :=
  a.peek = some .value || a.peek = some .flowEntry || a.peek = some close

private def endsFlowValue (close : Token) (a : Assembly) : Bool :=
  a.peek = some .flowEntry || a.peek = some close

mutual

/-- Reads a node. In a block it may be a block collection, and as a part of a mapping it may be a
sequence that is not indented. -/
private def node (block indentless : Bool) : Nat → Assembly → Except Fault (Node × Assembly)
  | 0, _ => .error .missingNode
  | fuel + 1, a =>
    match a.peek with
    | some (.alias name) =>
      match a.numberOf? name with
      | some number => .ok (.alias number, a.skip)
      | none => .error .unknownAnchor
    | _ => do
      let (name, tagText, a) := a.properties
      let tag ← match tagText with
        | some text => (a.tagOf text).map some
        | none => pure none
      let (number, a) := match name with
        | some name => ((a.addName name).1, (a.addName name).2)
        | none => (0, a)
      let (content, a) ← contentOf block indentless (name.isSome || tag.isSome) tag fuel a
      pure (if name.isSome then .named number content else content, a)

/-- Reads a node after its name and its tag. -/
private def contentOf (block indentless hasProperties : Bool) (tag : Option (List Char)) :
    Nat → Assembly → Except Fault (Node × Assembly)
  | 0, _ => .error .missingNode
  | fuel + 1, a =>
    match a.peek with
    | some (.scalar style text) => .ok (.scalar style tag text, a.skip)
    | some .flowSequenceStart => do
      let (items, a) ← flowItems true fuel a.skip
      pure (.sequence items, a)
    | some .flowMappingStart => do
      let (entries, a) ← flowEntries true fuel a.skip
      pure (.mapping entries, a)
    | some token =>
      if indentless && token = .blockEntry then do
        let (items, a) ← indentlessItems fuel a
        pure (.sequence items, a)
      else if block && token = .blockSequenceStart then do
        let (items, a) ← blockItems fuel a.skip
        pure (.sequence items, a)
      else if block && token = .blockMappingStart then do
        let (entries, a) ← blockEntries fuel a.skip
        pure (.mapping entries, a)
      else if hasProperties then .ok (.scalar .plain tag [], a)
      else .error .missingNode
    | none => if hasProperties then .ok (.scalar .plain tag [], a) else .error .missingNode

private def blockItems : Nat → Assembly → Except Fault (List Node × Assembly)
  | 0, _ => .error .missingNode
  | fuel + 1, a =>
    match a.peek with
    | some .blockEntry => do
      let a := a.skip
      let (item, a) ← if endsBlockItem a then pure (.empty, a) else node true false fuel a
      let (items, a) ← blockItems fuel a
      pure (item :: items, a)
    | some .blockEnd => .ok ([], a.skip)
    | _ => .error .missingEntry

private def indentlessItems : Nat → Assembly → Except Fault (List Node × Assembly)
  | 0, _ => .error .missingNode
  | fuel + 1, a =>
    match a.peek with
    | some .blockEntry => do
      let a := a.skip
      let (item, a) ← if endsIndentlessItem a then pure (.empty, a) else node true false fuel a
      let (items, a) ← indentlessItems fuel a
      pure (item :: items, a)
    | _ => .ok ([], a)

private def blockEntries : Nat → Assembly → Except Fault (List (Node × Node) × Assembly)
  | 0, _ => .error .missingNode
  | fuel + 1, a =>
    match a.peek with
    | some .key => do
      let a := a.skip
      let (key, a) ← if endsBlockNode a.peek then pure (.empty, a) else node true true fuel a
      let (value, a) ← blockValue fuel a
      let (entries, a) ← blockEntries fuel a
      pure ((key, value) :: entries, a)
    | some .blockEnd => .ok ([], a.skip)
    | _ => .error .missingKey

private def blockValue : Nat → Assembly → Except Fault (Node × Assembly)
  | 0, _ => .error .missingNode
  | fuel + 1, a =>
    match a.peek with
    | some .value =>
      let a := a.skip
      if endsBlockNode a.peek then .ok (.empty, a) else node true true fuel a
    | _ => .ok (.empty, a)

private def flowItems (first : Bool) : Nat → Assembly → Except Fault (List Node × Assembly)
  | 0, _ => .error .missingNode
  | fuel + 1, a => do
    if a.peek = some .flowSequenceEnd then return ([], a.skip)
    if !first && a.peek ≠ some .flowEntry then throw .missingSeparator
    let a := if first then a else a.skip
    match a.peek with
    | some .flowSequenceEnd => pure ([], a.skip)
    | some .key => do
      let a := a.skip
      let (key, a) ←
        if endsFlowKey .flowSequenceEnd a then pure (.empty, a.skip) else node false false fuel a
      let (value, a) ← flowValue .flowSequenceEnd fuel a
      let (items, a) ← flowItems false fuel a
      pure (.mapping [(key, value)] :: items, a)
    | _ => do
      let (item, a) ← node false false fuel a
      let (items, a) ← flowItems false fuel a
      pure (item :: items, a)

private def flowEntries (first : Bool) :
    Nat → Assembly → Except Fault (List (Node × Node) × Assembly)
  | 0, _ => .error .missingNode
  | fuel + 1, a => do
    if a.peek = some .flowMappingEnd then return ([], a.skip)
    if !first && a.peek ≠ some .flowEntry then throw .missingSeparator
    let a := if first then a else a.skip
    match a.peek with
    | some .flowMappingEnd => pure ([], a.skip)
    | some .key => do
      let a := a.skip
      let (key, a) ←
        if endsFlowKey .flowMappingEnd a then pure (.empty, a) else node false false fuel a
      let (value, a) ← flowValue .flowMappingEnd fuel a
      let (entries, a) ← flowEntries false fuel a
      pure ((key, value) :: entries, a)
    | _ => do
      let (key, a) ← node false false fuel a
      let (entries, a) ← flowEntries false fuel a
      pure ((key, .empty) :: entries, a)

private def flowValue (close : Token) : Nat → Assembly → Except Fault (Node × Assembly)
  | 0, _ => .error .missingNode
  | fuel + 1, a =>
    match a.peek with
    | some .value =>
      let a := a.skip
      if endsFlowValue close a then .ok (.empty, a) else node false false fuel a
    | _ => .ok (.empty, a)

end

/-- Reads the directives before a document; whether a version was given is told by `versioned`. -/
private def directives (versioned : Bool) (given : List (List Char × List Char)) :
    List Token → Except Fault (List (List Char × List Char) × List Token)
  | .directive (.version major minor) :: rest =>
    if versioned then .error .repeatedDirective
    else if major = 1 && (minor = 1 || minor = 2) then directives true given rest
    else .error .badVersion
  | .directive (.tagPrefix handle start) :: rest =>
    if given.any (·.1 = handle) then .error .repeatedDirective
    else directives versioned ((handle, start) :: given) rest
  | rest => .ok (given, rest)

/-- The handles that every document has. -/
private def defaultHandles : List (List Char × List Char) :=
  [(['!'], ['!']), (['!', '!'], "tag:yaml.org,2002:".toList)]

private def startsContent : List Token → Bool
  | [] | .directive _ :: _ | .documentStart :: _ | .documentEnd :: _ => false
  | _ => true

end Assembly

/-- The one document of a list of tokens, if there is any. -/
private def documentOf (tokens : List Token) : Except Fault (Option Node) := do
  let fuel := 4 * tokens.length + 4
  let (root, rest) ← match tokens with
    | [] => pure (none, [])
    | .directive _ :: _ | .documentStart :: _ => do
      let (given, rest) ← Assembly.directives false [] tokens
      match rest with
      | .documentStart :: rest =>
        if Assembly.startsContent rest then do
          let (node, a) ← Assembly.node true false fuel ⟨rest, [], given ++ Assembly.defaultHandles⟩
          pure (some node, a.tokens)
        else pure (some .empty, rest)
      | _ => throw .missingDocumentStart
    | tokens => do
      let (node, a) ← Assembly.node true false fuel ⟨tokens, [], Assembly.defaultHandles⟩
      pure (some node, a.tokens)
  if rest.all (· = .documentEnd) then pure root else throw .moreThanOneDocument

/-- The one document of a text; `none` when the text holds none. -/
def document (text : List Char) : Except Fault (Option Node) := do
  if !text.all isAllowed then throw .illFormedCharacter
  documentOf (← tokens (unifyBreaks text)).toList

mutual

/-- The last node with a number, in the order of the text. -/
def Node.find? (number : Nat) : Node → Option Node
  | .scalar _ _ _ | .alias _ => none
  | .sequence items => findAmong? number items
  | .mapping entries => findAmongEntries? number entries
  | .named n node => (node.find? number).or (if n = number then some node else none)

private def findAmong? (number : Nat) : List Node → Option Node
  | [] => none
  | item :: items => (findAmong? number items).or (item.find? number)

private def findAmongEntries? (number : Nat) : List (Node × Node) → Option Node
  | [] => none
  | (key, value) :: entries =>
    ((findAmongEntries? number entries).or (value.find? number)).or (key.find? number)

end

/-- The content of a node: names do not count, and an alias is what it stands for. -/
def Node.content (root : Node) : Node → Node
  | .named _ node => node
  | .alias number => (root.find? number).getD .empty
  | node => node

end RuntimeFlag.Yaml
