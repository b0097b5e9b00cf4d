import CloudLift.Yaml.Layout

/-!
# Nodes of a YAML document

A document is a tree of scalars, sequences and mappings.  A node can carry an anchor,
and an alias stands for the node with its anchor.  Anchors are numbered: an anchor gets
the number of different names before it, and where two nodes have one number an alias
means the later of them.
-/

namespace CloudLift.Yaml

structure Properties where
  anchor : Option Nat
  tag : Option String
  deriving DecidableEq, Repr

def Properties.none : Properties :=
  ⟨Option.none, Option.none⟩

/-- The properties as a scalar has them: a tag that is a bare mark says nothing. -/
def Properties.ofScalar (properties : Properties) : Properties :=
  if properties.tag == some "!" then { properties with tag := Option.none } else properties

inductive Node where
  | scalar (properties : Properties) (text : String) (plain : Bool)
  | sequence (properties : Properties) (items : List Node)
  | mapping (properties : Properties) (entries : List (Node × Node))
  | alias (anchor : Nat)

/-- A value that is left out. -/
def Node.missing : Node :=
  .scalar .none "" true

/-- The tokens that are left, and what the document has declared so far. -/
structure Reader where
  tokens : List Token
  anchors : List (String × Nat)
  shorthands : List (String × String)

namespace Reader

def peek? (r : Reader) : Option Token :=
  r.tokens.head?

def next (r : Reader) : Reader :=
  { r with tokens := r.tokens.drop 1 }

def sees (r : Reader) (token : Token) : Bool :=
  r.peek? == some token

/-- Whether one of the tokens comes next. -/
def seesAny (r : Reader) (tokens : List Token) : Bool :=
  match r.peek? with
  | some token => tokens.contains token
  | none => false

/-- Numbers an anchor. -/
def declare (r : Reader) (name : String) : Nat × Reader :=
  let number := r.anchors.length
  let anchors :=
    if (r.anchors.lookup name).isSome then
      r.anchors.map fun (n, k) => if n = name then (n, number) else (n, k)
    else
      r.anchors ++ [(name, number)]
  (number, { r with anchors := anchors })

/-- The tag that a handle and a suffix stand for. -/
def expandTag? (r : Reader) (handle suffix : String) : Option String :=
  if handle.isEmpty then some suffix
  else (r.shorthands.lookup handle).map (· ++ suffix)

/-- What stands before a node: an anchor and a tag, each at most once. -/
def properties? (r : Reader) : Option (Properties × Reader) :=
  let tag? (r : Reader) : Option (Option String × Reader) :=
    match r.peek? with
    | some (.tag handle suffix) => (r.expandTag? handle suffix).map fun t => (some t, r.next)
    | _ => some (none, r)
  match r.peek? with
  | some (.anchor name) => do
    let (number, r) := r.next.declare name
    let (tag, r) ← tag? r
    return (⟨some number, tag⟩, r)
  | _ => do
    let (tag, r) ← tag? r
    match tag, r.peek? with
    | some _, some (.anchor name) =>
      let (number, r) := r.next.declare name
      return (⟨some number, tag⟩, r)
    | _, _ => return (⟨none, tag⟩, r)

end Reader

mutual

/-- Reads a node.  In a block, block collections can stand, and as the value of a
mapping also a sequence that is not indented. -/
def readNode? (inBlock indentless : Bool) : Nat → Reader → Option (Node × Reader)
  | 0, _ => none
  | fuel + 1, r =>
    match r.peek? with
    | some (.alias name) => (r.anchors.lookup name).map fun number => (.alias number, r.next)
    | _ => do
      let (properties, r) ← r.properties?
      match r.peek? with
      | some (.scalar text plain) => return (.scalar properties.ofScalar text plain, r.next)
      | some .flowSequence =>
        let (items, r) ← readFlowItems? true fuel r.next
        return (.sequence properties items, r)
      | some .flowMapping =>
        let (entries, r) ← readFlowEntries? true fuel r.next
        return (.mapping properties entries, r)
      | token? =>
        if indentless && token? == some .blockEntry then
          let (items, r) ← readIndentless? fuel r
          return (.sequence properties items, r)
        else if inBlock && token? == some .blockSequence then
          let (items, r) ← readBlockItems? fuel r.next
          return (.sequence properties items, r)
        else if inBlock && token? == some .blockMapping then
          let (entries, r) ← readBlockEntries? fuel r.next
          return (.mapping properties entries, r)
        else if properties == .none then
          none
        else
          return (.scalar properties "" true, r)

/-- Reads a node, unless one of the tokens that can follow it comes first. -/
def readOptional? (inBlock indentless : Bool) (followers : List Token) :
    Nat → Reader → Option (Node × Reader)
  | 0, _ => none
  | fuel + 1, r =>
    if r.seesAny followers then
      some (.missing, r)
    else
      readNode? inBlock indentless fuel r

def readBlockItems? : Nat → Reader → Option (List Node × Reader)
  | 0, _ => none
  | fuel + 1, r =>
    if r.sees .blockEntry then do
      let (item, r) ← readOptional? true false [.blockEntry, .blockEnd] fuel r.next
      let (items, r) ← readBlockItems? fuel r
      return (item :: items, r)
    else if r.sees .blockEnd then
      some ([], r.next)
    else
      none

def readIndentless? : Nat → Reader → Option (List Node × Reader)
  | 0, _ => none
  | fuel + 1, r =>
    if r.sees .blockEntry then do
      let (item, r) ←
        readOptional? true false [.blockEntry, .key, .value, .blockEnd] fuel r.next
      let (items, r) ← readIndentless? fuel r
      return (item :: items, r)
    else
      some ([], r)

/-- Reads the entries of a block mapping; a key without a colon has no value. -/
def readBlockEntries? : Nat → Reader → Option (List (Node × Node) × Reader)
  | 0, _ => none
  | fuel + 1, r =>
    if r.sees .key then do
      let (key, r) ← readOptional? true true [.key, .value, .blockEnd] fuel r.next
      let (value, r) ←
        if r.sees .value then
          readOptional? true true [.key, .value, .blockEnd] fuel r.next
        else
          some (.missing, r)
      let (entries, r) ← readBlockEntries? fuel r
      return ((key, value) :: entries, r)
    else if r.sees .blockEnd then
      some ([], r.next)
    else
      none

/-- Reads the items of a flow sequence.  An item that is marked as a key is a mapping
with one entry. -/
def readFlowItems? (first : Bool) : Nat → Reader → Option (List Node × Reader)
  | 0, _ => none
  | fuel + 1, r =>
    if r.sees .flowSequenceEnd then
      some ([], r.next)
    else if !first && !r.sees .flowEntry then
      none
    else
      let r := if first then r else r.next
      if r.sees .flowSequenceEnd then
        some ([], r.next)
      else do
        let (item, r) ←
          if r.sees .key then do
            let (entry, r) ← readPair? fuel r.next
            some (.mapping .none [entry], r)
          else
            readNode? false false fuel r
        let (items, r) ← readFlowItems? false fuel r
        return (item :: items, r)

/-- Reads the one entry of a mapping inside a flow sequence. -/
def readPair? : Nat → Reader → Option ((Node × Node) × Reader)
  | 0, _ => none
  | fuel + 1, r => do
    let (key, r) ←
      if r.seesAny [.value, .flowEntry, .flowSequenceEnd] then
        some (.missing, r.next)
      else
        readNode? false false fuel r
    let (value, r) ←
      if r.sees .value then
        readOptional? false false [.flowEntry, .flowSequenceEnd] fuel r.next
      else
        some (.missing, r)
    return ((key, value), r)

/-- Reads the entries of a flow mapping.  A node that is not marked as a key has no
value. -/
def readFlowEntries? (first : Bool) : Nat → Reader → Option (List (Node × Node) × Reader)
  | 0, _ => none
  | fuel + 1, r =>
    if r.sees .flowMappingEnd then
      some ([], r.next)
    else if !first && !r.sees .flowEntry then
      none
    else
      let r := if first then r else r.next
      if r.sees .flowMappingEnd then
        some ([], r.next)
      else do
        let (entry, r) ←
          if r.sees .key then do
            let (key, r) ←
              readOptional? false false [.value, .flowEntry, .flowMappingEnd] fuel r.next
            let (value, r) ←
              if r.sees .value then
                readOptional? false false [.flowEntry, .flowMappingEnd] fuel r.next
              else
                some (.missing, r)
            some ((key, value), r)
          else do
            let (key, r) ← readNode? false false fuel r
            some ((key, .missing), r)
        let (entries, r) ← readFlowEntries? false fuel r
        return (entry :: entries, r)

end

mutual

/-- The nodes with an anchor, by its number, outermost first. -/
def Node.anchored : Node → List (Nat × Node)
  | .scalar properties text plain =>
    properties.anchor.toList.map fun n => (n, .scalar properties text plain)
  | .sequence properties items =>
    (properties.anchor.toList.map fun n => (n, .sequence properties items)) ++
      anchoredItems items
  | .mapping properties entries =>
    (properties.anchor.toList.map fun n => (n, .mapping properties entries)) ++
      anchoredEntries entries
  | .alias _ => []

def anchoredItems : List Node → List (Nat × Node)
  | [] => []
  | item :: items => item.anchored ++ anchoredItems items

def anchoredEntries : List (Node × Node) → List (Nat × Node)
  | [] => []
  | (key, value) :: entries => key.anchored ++ value.anchored ++ anchoredEntries entries

end

/-- What a text holds: the root of its one document, if there is one, and the nodes
that aliases stand for. -/
structure Document where
  root : Option Node
  anchored : List (Nat × Node)

/-- The node that a node stands for. -/
def Document.resolve (document : Document) (node : Node) : Node :=
  match node with
  | .alias number => (document.anchored.reverse.lookup number).getD node
  | node => node

/-- The directives before a document: at most one version, which has to be 1.1 or 1.2,
and shorthands for tags, each once. -/
def readDirectives? (version : Bool) (shorthands : List (String × String)) :
    List Token → Option (List (String × String) × List Token)
  | .version major minor :: tokens =>
    if version || major ≠ 1 || (minor ≠ 1 && minor ≠ 2) then none
    else readDirectives? true shorthands tokens
  | .tagShorthand handle expansion :: tokens =>
    if (shorthands.lookup handle).isSome then none
    else readDirectives? version (shorthands ++ [(handle, expansion)]) tokens
  | tokens => some (shorthands, tokens)

/-- The shorthands that need no directive. -/
def standardShorthands : List (String × String) :=
  [("!", "!"), ("!!", "tag:yaml.org,2002:")]

/-- Reads the tokens of a document up to what follows it.  After directives the start
of the document has to be marked. -/
def readDocument? (tokens : List Token) : Option (Node × List Token) := do
  let (shorthands, afterDirectives) ← readDirectives? false [] tokens
  let reader (tokens : List Token) : Reader := ⟨tokens, [], shorthands ++ standardShorthands⟩
  let fuel := 4 * tokens.length + 8
  match afterDirectives with
  | .documentStart :: rest =>
    match rest with
    | [] => return (.missing, [])
    | token :: _ =>
      let empty := match token with
        | .version _ _ => true
        | .tagShorthand _ _ => true
        | .documentStart => true
        | .documentEnd => true
        | _ => false
      if empty then
        return (.missing, rest)
      else
        let (node, r) ← readNode? true false fuel (reader rest)
        return (node, r.tokens)
  | rest =>
    if rest.length = tokens.length then
      let (node, r) ← readNode? true false fuel (reader rest)
      return (node, r.tokens)
    else
      none

/-- The document of a text, which must not hold a second one. -/
def Document.ofText? (text : String) : Option Document := do
  let tokens ← tokens? text
  if tokens.isEmpty then
    return ⟨none, []⟩
  else
    let (root, rest) ← readDocument? tokens
    if rest.all (· == .documentEnd) then
      return ⟨some root, root.anchored⟩
    else
      none

end CloudLift.Yaml
