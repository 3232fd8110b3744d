import ChatRelay.Json.Source

/-!
# Readers of typed values

A `Decoder` turns what was read of a JSON text into a value of a type, and
reports the first fault otherwise. Records are described by their `Fields`: a
record is an object with these members in any order, each at most once, or the
list of its fields. Members that are not fields are passed over.

A choice with a tag (`tagged`) is kept whole before its tag is looked at. What
is read from such a kept value obeys slightly different rules, which `Context`
carries along.

* `decodeText` reads a whole text;
* `Fields.decoder` reads a record, `tagged` a choice, `oneOf` a plain name.
-/

namespace ChatRelay.Json

/-- The circumstances in which a value is read. -/
structure Context where
  /-- How many more levels of lists and objects there may be. -/
  room : Nat := maxDepth
  /-- The value was kept whole before it is read. -/
  kept : Bool := false

/-- One level further in. -/
def Context.inner (ctx : Context) : Context := { ctx with room := ctx.room - 1 }

/-- A reader of values of a type. -/
abbrev Decoder (α : Type) := Context → Source → Except Fault α

/-- Refuses a value that is not of the wanted shape. -/
def refuse (s : Source) : Except Fault α :=
  match s with
  | .flawed f _ => .error f
  | _ => .error .mismatched

/-- Goes one level further in, if there is room. A kept value has been measured before. -/
def enter (ctx : Context) (k : Context → Except Fault α) : Except Fault α :=
  if ctx.kept then k ctx
  else if ctx.room = 0 then .error .malformed
  else k ctx.inner

namespace Decoder

def text : Decoder String := fun _ s =>
  match s with
  | .text t => .ok t
  | s => refuse s

def bool : Decoder Bool := fun _ s =>
  match s with
  | .bool b => .ok b
  | s => refuse s

/-- A natural number below `bound`. -/
def below (bound : Nat) : Decoder Nat := fun _ s =>
  match s with
  | .number (.natural n) => if n < bound then .ok n else .error .mismatched
  | s => refuse s

/-- A number of double precision. -/
def double : Decoder Float := fun _ s =>
  match s with
  | .number (.natural n) => .ok n.toUInt64.toFloat
  | .number (.negative n) => .ok (-n.toUInt64.toFloat)
  | .number (.double x) => .ok x
  | s => refuse s

/-- A value or `null`. -/
def option (d : Decoder α) : Decoder (Option α) := fun ctx s =>
  match s with
  | .null => .ok none
  | s => (d ctx s).map some

/-- The items of a list that has been entered. -/
def items (d : Decoder α) (ctx : Context) : List Source → Ending → Except Fault (List α)
  | [], ending => ending.skip.map fun _ => []
  | s :: ss, ending => do
    let a ← d ctx s
    return a :: (← items d ctx ss ending)

def list (d : Decoder α) : Decoder (List α) := fun ctx s =>
  match s with
  | .list ss ending => enter ctx fun ctx => items d ctx ss ending
  | s => refuse s

/-- Reads with `d` and makes something of the value, or refuses it. -/
def filterMap (d : Decoder α) (f : α → Option β) : Decoder β := fun ctx s => do
  match f (← d ctx s) with
  | some b => .ok b
  | none => .error .mismatched

/-- Only checks that a value has the shape that `d` reads. -/
def check (d : Decoder α) : Decoder Unit := fun ctx s => (d ctx s).map fun _ => ()

end Decoder

/-- A plain name out of a list of names. The name may also be the only key of an object whose value
is `null`. -/
def oneOf (names : List (String × α)) : Decoder α := fun ctx s =>
  let known (key : Source) : Except Fault α :=
    match key with
    | .text t => ((names.lookup t).map Except.ok).getD (.error .mismatched)
    | s => refuse s
  match s with
  | .text _ => known s
  | .object members ending =>
    if ctx.kept then
      match members, ending with
      | [(key, value)], .closed => do
        let a ← known key
        match value with
        | .null => .ok a
        | .object [] .closed => .ok a
        | _ => .error .mismatched
      | _, _ => .error .mismatched
    else if ctx.room = 0 then .error .malformed
    else
      match members, ending with
      | [], .closed => .error .malformed
      | [], .noKey f => .error f
      | [], ending => ending.skip.bind fun _ => .error .malformed
      | (key, value) :: others, ending => do
        let a ← known key
        match value with
        | .null => .ok ()
        | s => refuse s
        match others, ending with
        | [], .closed => .ok a
        | [], .stopped f => .error f
        | _, _ => .error .malformed
  | .flawed f _ => .error f
  | _ => .error (if ctx.kept then .mismatched else .malformed)

/-- The fields of a record. -/
structure Fields (α : Type) where
  /-- The names of the fields, each with what refuses a value of the wrong shape. -/
  known : List (String × Decoder Unit)
  /-- The record with these members, each of which has been found to be of the right shape. -/
  ofMembers : Context → List (Source × Source) → Except Fault α
  /-- The record whose fields stand at the start of these items, and the items behind them. -/
  ofItems : Context → List Source → Ending → Except Fault (α × List Source)

namespace Fields

/-- The value of the member with this name. -/
def find? (name : String) : List (Source × Source) → Option Source
  | [] => none
  | (key, value) :: members =>
    match key with
    | .text t => if t = name then some value else find? name members
    | _ => find? name members

/-- The first item, or the fault of a list that ends before it. -/
def takeItem (missing : Except Fault α) (d : Decoder α) (ctx : Context) (items : List Source)
    (ending : Ending) : Except Fault (α × List Source) :=
  match items with
  | s :: rest => do return (← d ctx s, rest)
  | [] => do
    ending.skip
    return (← missing, [])

/-- A field that must be there. -/
def required (name : String) (d : Decoder α) : Fields α where
  known := [(name, d.check)]
  ofMembers ctx members := ((find? name members).map (d ctx)).getD (.error .mismatched)
  ofItems := takeItem (.error .mismatched) d

/-- A field that has a default. -/
def withDefault (name : String) (d : Decoder α) (a : α) : Fields α where
  known := [(name, d.check)]
  ofMembers ctx members := ((find? name members).map (d ctx)).getD (.ok a)
  ofItems := takeItem (.ok a) d

/-- A field that a member may leave out, but that has a place in the list of fields. -/
def optional (name : String) (d : Decoder α) : Fields (Option α) where
  known := [(name, d.option.check)]
  ofMembers ctx members := ((find? name members).map (d.option ctx)).getD (.ok none)
  ofItems := takeItem (.error .mismatched) d.option

/-- No field. -/
def pure (a : α) : Fields α where
  known := []
  ofMembers _ _ := .ok a
  ofItems _ items _ := .ok (a, items)

/-- The fields of both, in this order. -/
def seq (f : Fields (α → β)) (g : Unit → Fields α) : Fields β where
  known := f.known ++ (g ()).known
  ofMembers ctx members := do return (← f.ofMembers ctx members) (← (g ()).ofMembers ctx members)
  ofItems ctx items ending := do
    let (h, items) ← f.ofItems ctx items ending
    let (a, items) ← (g ()).ofItems ctx items ending
    return (h a, items)

instance : Functor Fields where
  map f g := seq (pure f) fun _ => g

instance : Seq Fields where
  seq := seq

/-- Reads the members of an object in order. A field that comes twice is refused at its second key,
a member that is no field is passed over. -/
def scan (known : List (String × Decoder Unit)) (ctx : Context) (seen : List String) :
    List (Source × Source) → Ending → Except Fault Unit
  | [], ending => ending.skip
  | (key, value) :: members, ending =>
    match key with
    | .text name =>
      match known.lookup name with
      | none => do
        value.skip
        scan known ctx seen members ending
      | some d =>
        if seen.contains name then .error .mismatched
        else do
          d ctx value
          scan known ctx (name :: seen) members ending
    | s => refuse s

/-- Refuses what follows the last field of a list of fields. -/
def endItems (kept : Bool) : List Source → Ending → Except Fault Unit
  | [], .closed => .ok ()
  | [], .stopped f => .error f
  | _, _ => .error (if kept then .mismatched else .malformed)

/-- A record with these fields. -/
def decoder (f : Fields α) : Decoder α := fun ctx s =>
  match s with
  | .object members ending => enter ctx fun ctx => do
    scan f.known ctx [] members ending
    f.ofMembers ctx members
  | .list items ending => enter ctx fun ctx => do
    let (a, items) ← f.ofItems ctx items ending
    endItems ctx.kept items ending
    return a
  | s => refuse s

end Fields

/-- Reads the members of a tagged object in order: the tag where it stands, everything else as it
is. -/
def scanTagged (tag : String) (known : Source → Except Fault α) (ctx : Context) (found : Option α) :
    List (Source × Source) → Ending → Except Fault (Option α)
  | [], ending => ending.skip.map fun _ => found
  | (key, value) :: members, ending =>
    match key with
    | .text name =>
      if name = tag then
        match found with
        | some _ => .error .mismatched
        | none => do scanTagged tag known ctx (some (← known value)) members ending
      else do
        value.admit ctx.room
        scanTagged tag known ctx found members ending
    | s => refuse s

/-- Whether a member is not the tag. -/
def isNotTag (tag : String) (member : Source × Source) : Bool :=
  match member.1 with
  | .text name => name != tag
  | _ => true

/-- A choice whose alternative is named by the member `tag`, or by the first item of a list. The
other members, or items, are what the alternative is read from. -/
def tagged (tag : String) (alternatives : List (String × Decoder α)) : Decoder α := fun ctx s =>
  let known (s : Source) : Except Fault (Decoder α) :=
    match s with
    | .text t => ((alternatives.lookup t).map Except.ok).getD (.error .mismatched)
    | s => refuse s
  match s with
  | .object members ending => enter ctx fun ctx => do
    match ← scanTagged tag known ctx none members ending with
    | none => .error .mismatched
    | some d => d { ctx with kept := true } (.object (members.filter (isNotTag tag)) .closed)
  | .list items ending => enter ctx fun ctx => do
    match items with
    | [] => do
      ending.skip
      .error .mismatched
    | first :: rest => do
      let d ← known first
      admitItems ctx.room rest ending
      d { ctx with kept := true } (.list rest .closed)
  | s => refuse s

/-- An alternative that carries nothing: other members are passed over, other items are not. -/
def alone (a : α) : Decoder α := fun _ s =>
  match s with
  | .object _ _ => .ok a
  | .list [] _ => .ok a
  | _ => .error .mismatched

/-- Reads a value from the whole of a text. -/
def decodeChars (d : Decoder α) (cs : List Char) : Except Fault α := do
  let (s, rest) := Source.ofChars cs
  let a ← d {} s
  match rest.map skipBlanks with
  | some [] => .ok a
  | _ => .error .malformed

/-- Reads a value from the whole of a text. -/
def decodeText (d : Decoder α) (text : String) : Except Fault α :=
  decodeChars d text.toList

end ChatRelay.Json
