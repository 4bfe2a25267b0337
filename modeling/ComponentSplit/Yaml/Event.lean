import ComponentSplit.Yaml.Token

namespace ComponentSplit.Yaml

/-- What stands in front of a node: its anchor, and its tag with the handle spelled out. -/
structure Properties where
  anchor : Option String := none
  tag : Option String := none
deriving DecidableEq, Repr

/-- Something that starts or ends in a text. -/
inductive EventKind
  | streamStart
  | streamEnd
  | documentStart
  | documentEnd
  | aliasOf (name : String)
  | scalar (properties : Properties) (text : String) (isPlain : Bool)
  | sequenceStart (properties : Properties)
  | sequenceEnd
  | mappingStart (properties : Properties)
  | mappingEnd
deriving DecidableEq, Repr

structure Event where
  kind : EventKind
  mark : Mark
deriving DecidableEq, Repr

/-- What the grammar expects next. -/
inductive Expectation
  | firstDocument
  | document
  | documentContent
  | documentEnd
  | node
  | entry
  | indentlessEntry
  | key
  | value
  | flowEntry (isFirst : Bool)
  | pairKey
  | pairValue
  | pairEnd
  | flowKey (isFirst : Bool)
  | flowValue
  | flowNoValue
  | nothing
deriving DecidableEq, Repr

/-- How far the grammar has come: the tokens to come, the fault behind them, what is expected next
and after it, where the open collections start, and the handles of the document. -/
structure Progress where
  tokens : List Token
  fault : Option Fault
  next : Expectation := .firstDocument
  after : List Expectation := []
  openings : List Mark := []
  handles : List (String × String) := []

abbrev Grammar := StateT Progress (Except Fault)

namespace Grammar

def usualHandles : List (String × String) := [("!", "!"), ("!!", "tag:yaml.org,2002:")]

/-- The next token. Behind the last one there is a fault, or nothing but the end. -/
def peek : Grammar Token := do
  let p ← get
  match p.tokens, p.fault with
  | token :: _, _ => pure token
  | [], some fault => throw fault
  | [], none => pure ⟨.streamEnd, {}, {}⟩

def take : Grammar Token := do
  let token ← peek
  modify fun p => { p with tokens := p.tokens.drop 1 }
  pure token

def sees (is : Symbol → Bool) : Grammar Bool := do pure (is (← peek).symbol)

def expect (next : Expectation) : Grammar Unit := modify fun p => { p with next }

def expectAfter (later : Expectation) : Grammar Unit :=
  modify fun p => { p with after := later :: p.after }

/-- Go on with what was expected after what has ended. -/
def resume : Grammar Unit :=
  modify fun p => { p with next := p.after.head?.getD .nothing, after := p.after.drop 1 }

def enter (mark : Mark) : Grammar Unit := modify fun p => { p with openings := mark :: p.openings }

def leave : Grammar Unit := do
  modify fun p => { p with openings := p.openings.drop 1 }
  resume

def refuse (context : Context) (start : Mark) (problem : String → Problem) : Grammar α := do
  let token ← peek
  throw (.marked .grammar (some (context, some start)) (problem token.symbol.name) token.start)

def emptyScalar (mark : Mark) : Event := ⟨.scalar {} "" true, mark⟩

def spellTag (start : Mark) (mark : Mark) (text : TagText) : Grammar String := do
  match text.handle with
  | none => pure text.suffix
  | some handle =>
    match (← get).handles.lookup handle with
    | some stands => pure (stands ++ text.suffix)
    | none =>
      throw (.marked .grammar (some (.parsing "a node", some start)) (.undefinedHandle handle) mark)

def anchor? : Grammar (Option (String × Mark)) := do
  let token ← peek
  match token.symbol with
  | .anchor name => do
    let _ ← take
    pure (some (name, token.start))
  | _ => pure none

def tag? : Grammar (Option (TagText × Mark)) := do
  let token ← peek
  match token.symbol with
  | .tag text => do
    let _ ← take
    pure (some (text, token.start))
  | _ => pure none

/-- The anchor and the tag in front of a node, in any order, and the place of the first. -/
def properties : Grammar (Properties × Option Mark) := do
  let first ← anchor?
  let tag ← tag?
  let anchor ← if first.isNone && tag.isSome then anchor? else pure first
  let start := (first.map Prod.snd).or (tag.map Prod.snd)
  match tag with
  | none => pure (⟨anchor.map Prod.fst, none⟩, start)
  | some (text, mark) =>
    let spelled ← spellTag (start.getD mark) mark text
    pure (⟨anchor.map Prod.fst, some spelled⟩, start)

/-- Blocks may start here, and sequences that are not indented. -/
structure NodePlace where
  isBlock : Bool := false
  isIndentless : Bool := false

/-- The start of a node, or all of it when it is a scalar or an alias. -/
def node (place : NodePlace) : Grammar Event := do
  let first ← peek
  if let .aliasOf name := first.symbol then
    let _ ← take
    resume
    return ⟨.aliasOf name, first.start⟩
  let (properties, propertyMark) ← properties
  let token ← peek
  let start := propertyMark.getD token.start
  let opens (kind : EventKind) (next : Expectation) : Grammar Event := do
    enter token.start
    let _ ← take
    expect next
    pure ⟨kind, start⟩
  match token.symbol, place.isBlock with
  | .scalar text isPlain, _ =>
    let _ ← take
    resume
    pure ⟨.scalar properties text isPlain, start⟩
  | .flowSequenceStart, _ => opens (.sequenceStart properties) (.flowEntry true)
  | .flowMappingStart, _ => opens (.mappingStart properties) (.flowKey true)
  | .blockSequenceStart, true => opens (.sequenceStart properties) .entry
  | .blockMappingStart, true => opens (.mappingStart properties) .key
  | symbol, isBlock =>
    if place.isIndentless && symbol == .blockEntry then
      expect .indentlessEntry
      pure ⟨.sequenceStart properties, start⟩
    else if propertyMark.isSome then
      resume
      pure ⟨.scalar properties "" (properties.tag.isNone || properties.tag == some "!"), start⟩
    else
      refuse (.parsing (if isBlock then "a block node" else "a flow node")) start
        (.badToken "the node content")

/-- A node, unless one of some tokens shows that there is none; `later` is expected after it. -/
def nodeUnless (ends : Symbol → Bool) (place : NodePlace) (later : Expectation) (mark : Mark) :
    Grammar Event := do
  if ← sees ends then
    expect later
    pure (emptyScalar mark)
  else
    expectAfter later
    node place

/-- The directives in front of a document, and the handles they leave. -/
def directives (fuel : Nat) (hasVersion : Bool) (handles : List (String × String)) :
    Grammar (List (String × String)) := do
  let token ← peek
  let fail (problem : Problem) : Grammar (List (String × String)) :=
    throw (.marked .grammar none problem token.start)
  match fuel, token.symbol with
  | fuel + 1, .directive d =>
    let _ ← take
    match d with
    | .version major =>
      if hasVersion then fail .duplicateVersion
      else if major ≠ 1 then fail .badVersion
      else directives fuel true handles
    | .handle name stands =>
      if (handles.lookup name).isSome then fail (.duplicateHandle name)
      else directives fuel hasVersion ((name, stands) :: handles)
    | .other => directives fuel hasVersion handles
  | _, _ => pure (handles ++ usualHandles)

def skipDocumentEnds : Grammar Unit :=
  modify fun p => { p with tokens := p.tokens.dropWhile fun t => t.symbol == .documentEnd }

def isDocumentBound : Symbol → Bool
  | .directive _ | .documentStart | .documentEnd | .streamEnd => true
  | _ => false

/-- A document with directives and a mark in front of it, or the end of the text. -/
def document : Grammar Event := do
  skipDocumentEnds
  let first ← peek
  if first.symbol == .streamEnd then
    let _ ← take
    expect .nothing
    return ⟨.streamEnd, first.start⟩
  let handles ← directives (← get).tokens.length false []
  modify fun p => { p with handles }
  let token ← peek
  if token.symbol != .documentStart then
    throw (.marked .grammar none (.badToken "'<document start>'" token.symbol.name) token.start)
  let _ ← take
  expectAfter .documentEnd
  expect .documentContent
  pure ⟨.documentStart, first.start⟩

/-- A document without anything in front of it, if there is one. -/
def firstDocument : Grammar Event := do
  let token ← peek
  match token.symbol with
  | .directive _ | .documentStart | .streamEnd => document
  | _ =>
    modify fun p => { p with handles := usualHandles }
    expectAfter .documentEnd
    expect .node
    pure ⟨.documentStart, token.start⟩

/-- The place where the collection that opened last starts. -/
def opened : Grammar Mark := do pure ((← get).openings.head?.getD {})

def isEntryEnd : Symbol → Bool
  | .blockEntry | .blockEnd => true
  | _ => false

def isKeyEnd : Symbol → Bool
  | .key | .value | .blockEnd => true
  | _ => false

def blockEnd (what : String) (kind : EventKind) : Grammar Event := do
  let token ← peek
  if token.symbol == .blockEnd then
    let _ ← take
    leave
    pure ⟨kind, token.start⟩
  else refuse (.parsing what) (← opened) (.badToken "<block end>")

def entry : Grammar Event := do
  let token ← peek
  if token.symbol == .blockEntry then
    let _ ← take
    nodeUnless isEntryEnd ⟨true, false⟩ .entry token.stop
  else blockEnd "a block collection" .sequenceEnd

/-- An entry of a sequence that is not indented, whose end no token marks. -/
def indentlessEntry : Grammar Event := do
  let token ← peek
  if token.symbol == .blockEntry then
    let _ ← take
    nodeUnless (fun s => isEntryEnd s || isKeyEnd s) ⟨true, false⟩ .indentlessEntry token.stop
  else
    resume
    pure ⟨.sequenceEnd, token.start⟩

def key : Grammar Event := do
  let token ← peek
  if token.symbol == .key then
    let _ ← take
    nodeUnless isKeyEnd ⟨true, true⟩ .value token.stop
  else blockEnd "a block mapping" .mappingEnd

/-- The value behind a key, which may be missing. -/
def valueOr (ends : Symbol → Bool) (place : NodePlace) (later : Expectation) : Grammar Event := do
  let token ← peek
  if token.symbol == .value then
    let _ ← take
    nodeUnless ends place later token.stop
  else
    expect later
    pure (emptyScalar token.start)

/-- The comma in front of an entry that is not the first one. -/
def separator (isFirst : Bool) (what expected : String) : Grammar Unit := do
  if !isFirst then
    if ← sees (· == .flowEntry) then
      let _ ← take
    else refuse (.parsing what) (← opened) (.noFlowSeparator expected)

def isPairEnd : Symbol → Bool
  | .flowEntry | .flowSequenceEnd => true
  | _ => false

def isFlowKeyEnd : Symbol → Bool
  | .flowEntry | .flowMappingEnd => true
  | _ => false

def flowEnd (kind : EventKind) : Grammar Event := do
  let token ← take
  leave
  pure ⟨kind, token.start⟩

/-- An entry between brackets, which may be a mapping of a single pair. -/
def flowEntry (isFirst : Bool) : Grammar Event := do
  if ← sees (· == .flowSequenceEnd) then flowEnd .sequenceEnd
  else
    separator isFirst "a flow sequence" "',' or ']'"
    let token ← peek
    match token.symbol with
    | .key =>
      expect .pairKey
      pure ⟨.mappingStart {}, token.start⟩
    | .flowSequenceEnd => flowEnd .sequenceEnd
    | _ =>
      expectAfter (.flowEntry false)
      node {}

def pairKey : Grammar Event := do
  let token ← take
  nodeUnless (fun s => s == .value || isPairEnd s) {} .pairValue token.stop

def flowKey (isFirst : Bool) : Grammar Event := do
  if ← sees (· == .flowMappingEnd) then flowEnd .mappingEnd
  else
    separator isFirst "a flow mapping" "',' or '\x7d'"
    let token ← peek
    match token.symbol with
    | .key =>
      let _ ← take
      nodeUnless (fun s => s == .value || isFlowKeyEnd s) {} .flowValue token.stop
    | .flowMappingEnd => flowEnd .mappingEnd
    | _ =>
      expectAfter .flowNoValue
      node {}

def event : Grammar Event := do
  match (← get).next with
  | .firstDocument => firstDocument
  | .document => document
  | .documentContent =>
    let token ← peek
    if isDocumentBound token.symbol then
      resume
      pure (emptyScalar token.start)
    else node ⟨true, false⟩
  | .documentEnd =>
    let token ← peek
    if token.symbol == .documentEnd then
      let _ ← take
    expect .document
    pure ⟨.documentEnd, token.start⟩
  | .node => node ⟨true, false⟩
  | .entry => entry
  | .indentlessEntry => indentlessEntry
  | .key => key
  | .value => valueOr isKeyEnd ⟨true, true⟩ .key
  | .flowEntry isFirst => flowEntry isFirst
  | .pairKey => pairKey
  | .pairValue => valueOr isPairEnd {} .pairEnd
  | .pairEnd =>
    expect (.flowEntry false)
    pure ⟨.mappingEnd, (← peek).start⟩
  | .flowKey isFirst => flowKey isFirst
  | .flowValue => valueOr isFlowKeyEnd {} (.flowKey false)
  | .flowNoValue =>
    expect (.flowKey false)
    pure (emptyScalar (← peek).start)
  | .nothing => pure ⟨.streamEnd, (← peek).start⟩

/-- The events up to the end of the text or to a fault, and the fault. -/
def eventsFrom (fuel : Nat) (p : Progress) : List Event × Option Fault :=
  match fuel with
  | 0 => ([], none)
  | fuel + 1 =>
    match event.run p with
    | .error fault => ([], some fault)
    | .ok (found, p) =>
      if found.kind = .streamEnd then ([found], none)
      else
        let (events, fault) := eventsFrom fuel p
        (found :: events, fault)

end Grammar

/-- The events of a text, up to a fault; no token leads to more than three of them. -/
def events (text : List Char) : List Event × Option Fault :=
  let (found, fault) := tokens text
  Grammar.eventsFrom (4 * found.length + 8) { tokens := found.drop 1, fault }

end ComponentSplit.Yaml
