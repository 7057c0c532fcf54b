import Deferred.Store.Basic

/-!
# Changes of the store

Everything that a run does to the store is one of these changes, each small enough to say in a
sentence what it keeps.  A change that does not fit what stands at its place does nothing.
-/

namespace Deferred

/-- One change of the store. -/
inductive Change where
  /-- Put a new object at the end. -/
  | allocate (object : Object) (attributes : Bindings)
  | setItems (target : Ref) (items : List Value)
  | setEntries (target : Ref) (entries : List (Value × Value))
  | setSlots (target : Ref) (slots : Slots Value)
  | setOctets (target : Ref) (content : List UInt8)
  | setAttribute (target : Ref) (name : String) (value : Value)
  | removeAttribute (target : Ref) (name : String)
  | setVariable (scope : Ref) (name : String) (value : Value)
  | setName (space : Ref) (name : String) (value : Value)
  | setFunction (target : Ref) (function : FunctionObject)
  /-- Take a world or a queue back to its start. -/
  | reset (target : Ref)
  | advance (iteration : Ref) (cursor : Cursor)
  /-- Reserve the next entity of a world. -/
  | reserve (world : Ref)
  | despawn (world : Ref) (index : Int)
  | insert (world : Ref) (index : Int) (component : Value)
  | insertResource (world : Ref) (resource : Value)
  | removeResource (world : Ref) (id : ClassId)
  /-- Put a command at the end of a queue. -/
  | push (queue : Ref) (command : Value)
  /-- Take the first command out of a queue. -/
  | pop (queue : Ref)
  /-- Give out a mark. -/
  | takeMark
  | setClassAttribute (id : ClassId) (name : String) (value : Value)
  | removeClassAttribute (id : ClassId) (name : String)
  | declareClass (id : ClassId) (declared : GeneratedClass)
  | makeModule (name : String) (names : Namespace) (listed : Bool)
  | setGlobal (module name : String) (value : Value)
  | log (value : Shown)
  | print (text : String)
  | notice (given : Notice)
  deriving Inhabited

namespace Store

/-- Change the cell at a place. -/
def modifyCell (store : Store) (place : Ref) (change : Cell → Cell) : Store :=
  { store with cells := store.cells.modify place change }

/-- Change what stands at a place. -/
def modifyObject (store : Store) (place : Ref) (change : Object → Object) : Store :=
  store.modifyCell place fun cell => { cell with object := change cell.object }

/-- Change the world at a place. -/
def modifyWorld (store : Store) (place : Ref) (change : World → World) : Store :=
  store.modifyObject place fun
    | .world world => .world (change world)
    | object => object

/-- Change the queue at a place. -/
def modifyQueue (store : Store) (place : Ref) (change : List Value → List Value) : Store :=
  store.modifyObject place fun
    | .queue pending => .queue (change pending)
    | object => object

/-- Change the attributes of a class. -/
def modifyClass (store : Store) (id : ClassId) (change : Bindings → Bindings) : Store :=
  let bindings := (Entries.get? store.attributes id).getD []
  { store with attributes := Entries.put store.attributes id (change bindings) }

/-- Change the names of a module. -/
def modifyModule (store : Store) (name : String) (change : Namespace → Namespace) : Store :=
  let names := (store.modules.made.lookup name).getD (Host.installedExports name)
  { store with
    modules := { store.modules with made := Entries.put store.modules.made name (change names) } }

end Store

namespace Change

/-- The store after a change. -/
def apply : Change → Store → Store
  | allocate object attributes, store =>
    { store with cells := store.cells.push { object, attributes } }
  | setItems target items, store => store.modifyObject target fun
    | .list _ => .list items
    | object => object
  | setEntries target entries, store => store.modifyObject target fun
    | .dict _ => .dict entries
    | object => object
  | setSlots target slots, store => store.modifyObject target fun
    | .set _ => .set slots
    | object => object
  | setOctets target content, store => store.modifyObject target fun
    | .octets _ => .octets content
    | object => object
  | setAttribute target name value, store => store.modifyCell target fun cell =>
    { cell with attributes := Entries.put cell.attributes name value }
  | removeAttribute target name, store => store.modifyCell target fun cell =>
    { cell with attributes := Entries.remove cell.attributes name }
  | setVariable scope name value, store => store.modifyObject scope fun
    | .scope module locals => .scope module (Entries.put locals name value)
    | object => object
  | setName space name value, store => store.modifyObject space fun
    | .space names => .space (Entries.put names name value)
    | object => object
  | setFunction target function, store => store.modifyObject target fun
    | .function _ => .function function
    | object => object
  | reset target, store => store.modifyObject target fun
    | .world _ => .world {}
    | .queue _ => .queue []
    | object => object
  | advance iteration cursor, store => store.modifyObject iteration fun
    | .iteration _ => .iteration cursor
    | object => object
  | reserve world, store =>
    { store.modifyWorld world fun content => content.reserve store.nextMark with
      marks := store.marks + 1 }
  | despawn world index, store => store.modifyWorld world fun content => content.despawn index
  | insert world index component, store =>
    store.modifyWorld world fun content => content.insert index component
  | insertResource world resource, store =>
    store.modifyWorld world fun content => content.insertResource resource
  | removeResource world id, store =>
    store.modifyWorld world fun content => content.removeResource id
  | push queue command, store => store.modifyQueue queue fun pending => pending ++ [command]
  | pop queue, store => store.modifyQueue queue (List.drop 1)
  | takeMark, store => { store with marks := store.marks + 1 }
  | setClassAttribute id name value, store =>
    store.modifyClass id fun bindings => Entries.put bindings name value
  | removeClassAttribute id name, store =>
    { store.modifyClass id fun bindings => Entries.remove bindings name with
      removed := (id, name) :: store.removed }
  | declareClass id declared, store =>
    { store with
      generated := Entries.put store.generated id declared
      removed := store.removed.filter (·.1 ≠ id) }
  | makeModule name names listed, store =>
    { store with
      modules :=
        { made := Entries.put store.modules.made name names
          listed :=
            if listed && !store.modules.listed.contains name then store.modules.listed ++ [name]
            else store.modules.listed } }
  | setGlobal module name value, store =>
    store.modifyModule module fun names => Entries.put names name value
  | log value, store => { store with log := store.log ++ [value] }
  | print text, store => { store with printed := store.printed ++ text }
  | notice given, store => { store with notices := store.notices ++ [given] }

end Change

end Deferred
