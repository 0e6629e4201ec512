import Fleet.World.Edits

/-!
# The world of a process

A process sees a file tree, holds on to one directory of it as its working directory, and writes
to two streams. The working directory is held by its serial number, so it stays the same directory
when names change, and has no path any more once it is removed.

* `current_enter`: entering a directory makes it the working directory and changes nothing else.
-/

namespace Fleet

/-- What a process sees and what it has written. -/
structure World : Type where
  tree : FileTree
  /-- The serial number of the working directory. -/
  current : Nat
  output : Bytes
  errors : Bytes
  deriving Repr

namespace World

/-- A process at the root of a tree that has written nothing. -/
def ofTree (tree : FileTree) : World :=
  ⟨tree, FileTree.rootSerial, [], []⟩

/-- The location of the working directory, unless it was removed. -/
def here? (w : World) : Option Location :=
  w.tree.locate? w.current

/-- The path of the working directory. -/
def currentPath (w : World) : Except OsError String :=
  match w.here? with
  | some location => .ok (FileTree.pathOf location)
  | none => .error .noSuchFile

/-- The serial number of the directory that a path leads to. -/
def directoryAt (w : World) (path : String) : Except OsError Nat := do
  match ← w.tree.entryAt w.here? path with
  | .directory serial => pure serial
  | _ => throw .notDirectory

/-- The world after the process enters the directory that a path leads to. -/
def enter (w : World) (path : String) : Except OsError World :=
  (w.directoryAt path).map fun serial => { w with current := serial }

/-- The world after a text was written. -/
def print (w : World) (text : String) : World :=
  { w with output := w.output ++ Text.encodeUtf8 text }

/-- The world after a text was written to the stream for errors. -/
def printError (w : World) (text : String) : World :=
  { w with errors := w.errors ++ Text.encodeUtf8 text }

/-- Entering a directory makes it the working directory and changes nothing else. -/
theorem current_enter {w v : World} {path : String} (h : w.enter path = .ok v) :
    ∃ serial, w.directoryAt path = .ok serial ∧ v = { w with current := serial } := by
  unfold enter at h
  match hd : w.directoryAt path, h with
  | .ok serial, h => exact ⟨serial, rfl, (Except.ok.inj h).symm⟩
  | .error _, h => nomatch h

end World

end Fleet
