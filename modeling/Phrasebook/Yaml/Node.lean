import Phrasebook.Yaml.Token.Lexer

/-!
# Phrasebook.Yaml.Node

From the tokens of a YAML text to its documents.

1. An anchor gets a number: how many names of anchors are known before it, each name counted once.
   A new name that follows a repeated one so shares the number of that.
2. An alias takes the number that its name has where it stands; the anchor must come before it.  It
   means the last node of the whole document with this number, in the order in which nodes start
   (`resolve`).
3. A missing key, value or item is an empty plain scalar.
4. In brackets, a question mark with no key behind it takes the next sign with it.
5. Tags are kept with scalars alone, in full.
-/

namespace Phrasebook

/-- A node of a YAML document. -/
inductive YamlNode where
  /-- A node that stands elsewhere, by the number of its anchor. -/
  | alias (number : Nat)
  | scalar (anchor : Option Nat) (form : ScalarForm) (tag : Option (List UInt8)) (text : String)
  | sequence (anchor : Option Nat) (items : List YamlNode)
  | mapping (anchor : Option Nat) (entries : List (YamlNode × YamlNode))

namespace YamlNode

/-- A node that is not there. -/
def missing : YamlNode := .scalar none .plain none ""

/-! ## Aliases -/

/-- The number of a node, if it has one, with the node. -/
def numbered (anchor : Option Nat) (n : YamlNode) : List (Nat × YamlNode) :=
  anchor.toList.map (·, n)

mutual

/-- The nodes with an anchor, in the order in which they start. -/
def anchored : YamlNode → List (Nat × YamlNode)
  | .alias _ => []
  | .scalar anchor form tag text => numbered anchor (.scalar anchor form tag text)
  | .sequence anchor items => numbered anchor (.sequence anchor items) ++ anchoredItems items
  | .mapping anchor entries => numbered anchor (.mapping anchor entries) ++ anchoredEntries entries

/-- The nodes with an anchor among the items of a sequence. -/
def anchoredItems : List YamlNode → List (Nat × YamlNode)
  | [] => []
  | n :: rest => anchored n ++ anchoredItems rest

/-- The nodes with an anchor among the entries of a mapping. -/
def anchoredEntries : List (YamlNode × YamlNode) → List (Nat × YamlNode)
  | [] => []
  | e :: rest => anchored e.1 ++ anchored e.2 ++ anchoredEntries rest

end

/-- What a node of a document means: an alias means the last node of the document with its
number. -/
def resolve (root : YamlNode) : YamlNode → YamlNode
  | .alias number => ((root.anchored.filter (·.1 == number)).getLast?.map (·.2)).getD missing
  | n => n

/-! ## Reading -/

/-- The state of reading: the tokens that are left, the meaning of tag handles, and the numbers of
the anchors that are known, each name with its latest one. -/
structure Source where
  tokens : List YamlToken
  handles : List (String × List UInt8)
  anchors : List (String × Nat)

/-- A reading of some of the tokens. -/
abbrev Reading := StateT Source Option

/-- The next token. -/
def peek : Reading (Option YamlToken) := do
  let s ← get
  pure s.tokens.head?

/-- Passes the next token. -/
def skip : Reading Unit := modify fun s => { s with tokens := s.tokens.drop 1 }

/-- A tag in full. -/
def fullTag (handle : String) (suffix : List UInt8) : Reading (List UInt8) := do
  let s ← get
  if handle == "" then pure suffix
  else
    match s.handles.lookup handle with
    | some meaning => pure (meaning ++ suffix)
    | none => failure

/-- The anchor and the tag before a node, in either order. -/
def properties : Reading (Option String × Option (List UInt8)) := do
  match ← peek with
  | some (.anchor name) =>
    skip
    match ← peek with
    | some (.tag handle suffix) =>
      skip
      pure (some name, some (← fullTag handle suffix))
    | _ => pure (some name, none)
  | some (.tag handle suffix) =>
    skip
    let tag ← fullTag handle suffix
    match ← peek with
    | some (.anchor name) =>
      skip
      pure (some name, some tag)
    | _ => pure (none, some tag)
  | _ => pure (none, none)

/-- Gives an anchor its number. -/
def addAnchor (name : String) : Reading Nat := do
  let s ← get
  let number := s.anchors.length
  set { s with anchors := (name, number) :: s.anchors.filter (·.1 != name) }
  pure number

/-- The number of an anchor that is known. -/
def anchorNumber (name : String) : Reading Nat := do
  let s ← get
  match s.anchors.lookup name with
  | some number => pure number
  | none => failure

/-- Whether the next token is one of some. -/
def nextIs (tokens : List YamlToken) : Reading Bool := do
  let t ← peek
  pure (t.any tokens.contains)

/-- A part that is missing before one of some tokens. -/
def unlessNext (stops : List YamlToken) (part : Reading YamlNode) : Reading YamlNode := do
  if ← nextIs stops then pure missing else part

/-- A part that is missing before one of some tokens, which is passed. -/
def unlessPassed (stops : List YamlToken) (part : Reading YamlNode) : Reading YamlNode := do
  if ← nextIs stops then do
    skip
    pure missing
  else part

mutual

/-- A node; `block` allows block collections, and `bare` a block sequence that is not indented. -/
def node (fuel : Nat) (block bare : Bool) : Reading YamlNode :=
  match fuel with
  | 0 => failure
  | fuel + 1 => do
    match ← peek with
    | some (.alias name) =>
      skip
      pure (.alias (← anchorNumber name))
    | _ =>
      let (name, tag) ← properties
      let anchor ← name.mapM addAnchor
      content fuel block bare anchor tag

/-- A node behind its anchor and tag; without any of them it must not be empty. -/
def content (fuel : Nat) (block bare : Bool) (anchor : Option Nat) (tag : Option (List UInt8)) :
    Reading YamlNode :=
  match fuel with
  | 0 => failure
  | fuel + 1 => do
    let empty : Reading YamlNode :=
      if anchor.isSome || tag.isSome then pure (.scalar anchor .plain tag "") else failure
    match ← peek with
    | some (.scalar form text) =>
      skip
      pure (.scalar anchor form tag text)
    | some .flowSequenceStart =>
      skip
      pure (.sequence anchor (← flowItems fuel true))
    | some .flowMappingStart =>
      skip
      pure (.mapping anchor (← flowEntries fuel true))
    | some .blockEntry =>
      if bare then pure (.sequence anchor (← bareItems fuel)) else empty
    | some .blockSequenceStart =>
      if block then do
        skip
        pure (.sequence anchor (← blockItems fuel))
      else empty
    | some .blockMappingStart =>
      if block then do
        skip
        pure (.mapping anchor (← blockEntries fuel))
      else empty
    | _ => empty

/-- The items of a block sequence. -/
def blockItems (fuel : Nat) : Reading (List YamlNode) :=
  match fuel with
  | 0 => failure
  | fuel + 1 => do
    match ← peek with
    | some .blockEntry =>
      skip
      let item ← unlessNext [.blockEntry, .blockEnd] (node fuel true false)
      pure (item :: (← blockItems fuel))
    | some .blockEnd =>
      skip
      pure []
    | _ => failure

/-- The items of a block sequence that is not indented. -/
def bareItems (fuel : Nat) : Reading (List YamlNode) :=
  match fuel with
  | 0 => failure
  | fuel + 1 => do
    match ← peek with
    | some .blockEntry =>
      skip
      let item ← unlessNext [.blockEntry, .key, .value, .blockEnd] (node fuel true false)
      pure (item :: (← bareItems fuel))
    | _ => pure []

/-- The entries of a block mapping. -/
def blockEntries (fuel : Nat) : Reading (List (YamlNode × YamlNode)) :=
  match fuel with
  | 0 => failure
  | fuel + 1 => do
    match ← peek with
    | some .key =>
      skip
      let key ← unlessNext [.key, .value, .blockEnd] (node fuel true true)
      let value ← if ← nextIs [.value] then do
          skip
          unlessNext [.key, .value, .blockEnd] (node fuel true true)
        else pure missing
      pure ((key, value) :: (← blockEntries fuel))
    | some .blockEnd =>
      skip
      pure []
    | _ => failure

/-- A value in brackets, if there is a colon. -/
def flowValue (fuel : Nat) (closing : YamlToken) : Reading YamlNode :=
  match fuel with
  | 0 => failure
  | fuel + 1 => do
    if ← nextIs [.value] then do
      skip
      unlessNext [.flowEntry, closing] (node fuel false false)
    else pure missing

/-- The items of a sequence in brackets. -/
def flowItems (fuel : Nat) (first : Bool) : Reading (List YamlNode) :=
  match fuel with
  | 0 => failure
  | fuel + 1 => do
    if ← nextIs [.flowSequenceEnd] then do
      skip
      pure []
    else do
      unless first do
        if ← nextIs [.flowEntry] then skip else failure
      if ← nextIs [.key] then do
        skip
        let key ← unlessPassed [.value, .flowEntry, .flowSequenceEnd] (node fuel false false)
        let value ← flowValue fuel .flowSequenceEnd
        pure (.mapping none [(key, value)] :: (← flowItems fuel false))
      else if ← nextIs [.flowSequenceEnd] then do
        skip
        pure []
      else do
        let item ← node fuel false false
        pure (item :: (← flowItems fuel false))

/-- The entries of a mapping in braces. -/
def flowEntries (fuel : Nat) (first : Bool) : Reading (List (YamlNode × YamlNode)) :=
  match fuel with
  | 0 => failure
  | fuel + 1 => do
    if ← nextIs [.flowMappingEnd] then do
      skip
      pure []
    else do
      unless first do
        if ← nextIs [.flowEntry] then skip else failure
      if ← nextIs [.key] then do
        skip
        let key ← unlessNext [.value, .flowEntry, .flowMappingEnd] (node fuel false false)
        let value ← flowValue fuel .flowMappingEnd
        pure ((key, value) :: (← flowEntries fuel false))
      else if ← nextIs [.flowMappingEnd] then do
        skip
        pure []
      else do
        let key ← node fuel false false
        pure ((key, missing) :: (← flowEntries fuel false))

end

/-- The directives at the start of a document; `versioned` says that the version has been given. -/
def directives (versioned : Bool) (handles : List (String × List UInt8)) :
    List YamlToken → Option (List (String × List UInt8) × List YamlToken)
  | .versionDirective :: rest => if versioned then none else directives true handles rest
  | .tagDirective handle meaning :: rest =>
    if (handles.lookup handle).isSome then none
    else directives versioned ((handle, meaning) :: handles) rest
  | rest => some (handles, rest)

/-- What tag handles mean where no directive says something else. -/
def standardHandles : List (String × List UInt8) :=
  [("!", Yaml.octets ['!']), ("!!", Yaml.octets "tag:yaml.org,2002:".toList)]

/-- The tokens that end a document without content. -/
def endsDocument : List YamlToken → Bool
  | [] => true
  | .versionDirective :: _ | .tagDirective _ _ :: _ | .documentStart :: _ | .documentEnd :: _ =>
    true
  | _ => false

/-- The document of tokens that may hold one, if nothing but the ends of documents follows it: `some
none` if there is no document at all. -/
def ofTokens? (tokens : List YamlToken) : Option (Option YamlNode) :=
  if tokens.isEmpty then some none
  else do
    let (handles, rest) ← directives false [] tokens
    let (explicit, rest) := match rest with
      | .documentStart :: rest => (true, rest)
      | rest => (false, rest)
    let headed := handles.isEmpty && rest.length == tokens.length
    if explicit || headed then
      if endsDocument rest && explicit then
        if rest.all (· == .documentEnd) then some (some missing) else none
      else do
        let (root, s) ← (node (4 * rest.length + 4) true false).run
          ⟨rest, handles ++ standardHandles, []⟩
        if s.tokens.all (· == .documentEnd) then some (some root) else none
    else none

/-- The document of a YAML text that holds at most one. -/
def ofText? (text : String) : Option (Option YamlNode) :=
  (Yaml.tokenize text.toList).bind ofTokens?

end YamlNode

end Phrasebook
