import RecordFilters.Yaml.Token

/-! # Reading YAML texts

The tokens of a text drive a machine whose stack holds the collections that are still open. Where a
node may stand and none is written, there is the empty node.

The texts that are read hold one document of block and flow collections, scalars with and without
quotation marks, and comments. A key may be any node. -/

namespace RecordFilters.Yaml

/-- A collection that waits for a node; what it holds so far stands in reverse. -/
inductive Frame
  | items (before : List Yaml)
  /-- A block sequence in the column of the mapping to which it belongs; no token ends it. -/
  | looseItems (before : List Yaml)
  | name (before : List (Yaml × Yaml))
  | members (before : List (Yaml × Yaml)) (name : Yaml)
  | listItems (before : List Yaml)
  | tableName (before : List (Yaml × Yaml))
  /-- A node in a table that no token announces as a key. -/
  | bareName (before : List (Yaml × Yaml))
  | tableMembers (before : List (Yaml × Yaml)) (name : Yaml)
  /-- A mapping of one member, written without braces inside a list. -/
  | pairName (before : List Yaml)
  | pair (before : List Yaml) (name : Yaml)

/-- What has been read, by what may come next. -/
inductive Reading
  /-- A node or nothing. -/
  | node (stack : List Frame)
  /-- In a block sequence: a dash or the end. -/
  | nextItem (stack : List Frame) (before : List Yaml)
  /-- In a block sequence that no token ends: a dash, or what comes after the sequence. -/
  | nextLooseItem (stack : List Frame) (before : List Yaml)
  /-- In a block mapping: a key or the end. -/
  | nextName (stack : List Frame) (before : List (Yaml × Yaml))
  /-- After a key of a block mapping: a colon, or what comes after the member. -/
  | afterName (stack : List Frame) (before : List (Yaml × Yaml)) (name : Yaml)
  /-- In a list, at its start or after a comma: an item or the end. -/
  | listItem (stack : List Frame) (before : List Yaml)
  /-- After an item of a list: a comma or the end. -/
  | afterItem (stack : List Frame) (before : List Yaml)
  /-- In a list, where a key has been announced: the key. -/
  | pairName (stack : List Frame) (before : List Yaml)
  /-- After a key in a list: a colon, or what comes after the item. -/
  | afterPairName (stack : List Frame) (before : List Yaml) (name : Yaml)
  /-- In a table, at its start or after a comma: a key or the end. -/
  | tableName (stack : List Frame) (before : List (Yaml × Yaml))
  /-- After a key of a table: a colon, or what comes after the member. -/
  | afterTableName (stack : List Frame) (before : List (Yaml × Yaml)) (name : Yaml)
  /-- After a member of a table: a comma or the end. -/
  | afterMember (stack : List Frame) (before : List (Yaml × Yaml))
  /-- The whole document: nothing. -/
  | finished (y : Yaml)

namespace Reading

/-- A node is complete. -/
def complete (y : Yaml) : List Frame → Reading
  | [] => .finished y
  | .items before :: stack => .nextItem stack (y :: before)
  | .looseItems before :: stack => .nextLooseItem stack (y :: before)
  | .name before :: stack => .afterName stack before y
  | .members before name :: stack => .nextName stack ((name, y) :: before)
  | .listItems before :: stack => .afterItem stack (y :: before)
  | .tableName before :: stack => .afterTableName stack before y
  | .bareName before :: stack => .afterMember stack ((y, empty) :: before)
  | .tableMembers before name :: stack => .afterMember stack ((name, y) :: before)
  | .pairName before :: stack => .afterPairName stack before y
  | .pair before name :: stack => .afterItem stack (.mapping [(name, y)] :: before)

/-- A node begins. A dash begins one only as a key or value of a block mapping. -/
def start? : List Frame → Token → Option Reading
  | stack, .scalar y => some (complete y stack)
  | stack, .openSequence => some (.nextItem stack [])
  | stack, .openMapping => some (.nextName stack [])
  | stack, .openList => some (.listItem stack [])
  | stack, .openTable => some (.tableName stack [])
  | .name before :: stack, .dash => some (.node (.looseItems [] :: .name before :: stack))
  | .members before name :: stack, .dash =>
    some (.node (.looseItems [] :: .members before name :: stack))
  | _, _ => none

/-- What has been read once it is clear that no node comes where one might. -/
def withoutNode : Reading → Token → Reading
  | .node stack, t => if (start? stack t).isSome then .node stack else complete empty stack
  | reading, _ => reading

/-- What has been read once it is clear that a block sequence which no token ends has ended. -/
def withoutItem : Reading → Token → Reading
  | .nextLooseItem stack before, .dash => .nextLooseItem stack before
  | .nextLooseItem stack before, _ => complete (.sequence before.reverse) stack
  | reading, _ => reading

/-- What has been read once it is clear that a key has no value. -/
def withoutValue : Reading → Token → Reading
  | .afterName stack before name, .colon => .afterName stack before name
  | .afterName stack before name, _ => .nextName stack ((name, empty) :: before)
  | .afterTableName stack before name, .colon => .afterTableName stack before name
  | .afterTableName stack before name, _ => .afterMember stack ((name, empty) :: before)
  | .afterPairName stack before name, .colon => .afterPairName stack before name
  | .afterPairName stack before name, _ => complete empty (.pair before name :: stack)
  | reading, _ => reading

/-- A token is taken. Where a key has been announced in a list and none is written, the token is
taken together with the empty key. -/
def take? : Reading → Token → Option Reading
  | .node stack, t => start? stack t
  | .nextItem stack before, .dash => some (.node (.items before :: stack))
  | .nextItem stack before, .close => some (complete (.sequence before.reverse) stack)
  | .nextLooseItem stack before, .dash => some (.node (.looseItems before :: stack))
  | .nextName stack before, .key => some (.node (.name before :: stack))
  | .nextName stack before, .close => some (complete (.mapping before.reverse) stack)
  | .afterName stack before name, .colon => some (.node (.members before name :: stack))
  | .listItem stack before, .closeList => some (complete (.sequence before.reverse) stack)
  | .listItem stack before, .key => some (.pairName stack before)
  | .listItem stack before, t => start? (.listItems before :: stack) t
  | .afterItem stack before, .comma => some (.listItem stack before)
  | .afterItem stack before, .closeList => some (complete (.sequence before.reverse) stack)
  | .pairName stack before, .colon | .pairName stack before, .comma
  | .pairName stack before, .closeList => some (.afterPairName stack before empty)
  | .pairName stack before, t => start? (.pairName before :: stack) t
  | .afterPairName stack before name, .colon => some (.node (.pair before name :: stack))
  | .tableName stack before, .closeTable => some (complete (.mapping before.reverse) stack)
  | .tableName stack before, .key => some (.node (.tableName before :: stack))
  | .tableName stack before, t => start? (.bareName before :: stack) t
  | .afterTableName stack before name, .colon => some (.node (.tableMembers before name :: stack))
  | .afterMember stack before, .comma => some (.tableName stack before)
  | .afterMember stack before, .closeTable => some (complete (.mapping before.reverse) stack)
  | .finished y, .documentEnd => some (.finished y)
  | _, _ => none

def step (reading : Reading) (t : Token) : Option Reading :=
  (((reading.withoutNode t).withoutItem t).withoutValue t).take? t

end Reading

/-- The document of tokens. At the start of a text a node has to be written, unless the text is
empty; after a line that begins a document none has to be. -/
def ofTokens? : List Token → Option Yaml
  | [] => some empty
  | .documentEnd :: _ => none
  | .documentStart :: r | r => do
    match ← r.foldlM Reading.step (.node []) with
    | .node [] => some empty
    | .finished y => some y
    | _ => none

/-- The document that a text holds. -/
def read? (s : String) : Option Yaml := (tokens? s).bind ofTokens?

end RecordFilters.Yaml
