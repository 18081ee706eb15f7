import Orbit.Files.Path

/-!
# File trees

What a command sees of the files of a system: folders, files, links and a few devices, each at a location. Every step
of a path has to start in a folder; the last one may lead to nothing, and there a file can be made if the folder allows
it. A link is as good as the location to which it leads.

* `Location`, `Device`, `Source`, `Node` : where something is, and what it is.
* `FileTable` : what is where, and which folder is the working directory.
* `FileTable.Coherent` : a table as a system keeps it; `FileTree` is a table with this property.
* `FileTree.walk` : the location to which steps lead.
* `FileTree.read` : the contents of a file.
* `FileTree.destination`, `FileTree.put` : where bytes for a path go, and the files when they are there.
-/

namespace Orbit

/-- The names that lead to something from the root, the last one first. -/
abbrev Location := List String

/-- Where bytes go that no file holds. -/
inductive Device where
  /-- Bytes are forgotten. -/
  | null
  /-- There is never room. -/
  | full
  /-- Bytes go to standard output. -/
  | output
  /-- Bytes go to standard error. -/
  | errors
deriving DecidableEq, Repr

inductive Source where
  | bytes (bytes : List UInt8)
  /-- Bytes that never end. -/
  | endless
deriving DecidableEq, Repr

inductive Node where
  | folder
  /-- A folder in which no file can be made, what is said about an attempt, and whether names may be of any length. -/
  | fixedFolder (fault : PathFault) (longNames : Bool)
  | file (bytes : List UInt8)
  /-- A file that can only be read, and what is said about an attempt to write. -/
  | fixedFile (bytes : List UInt8) (fault : PathFault)
  | device (d : Device) (source : Source)
  /-- Something that cannot be opened. -/
  | closed (fault : PathFault)
  /-- Another name for what is at a location. -/
  | link (target : Location)
deriving DecidableEq, Repr

def Node.target? : Node → Option Location
  | link target => some target
  | _ => none

/-- What is where; of several entries for a location the first one counts. -/
structure FileTable where
  workingDirectory : Location
  nodes : List (Location × Node)
deriving DecidableEq, Repr

namespace FileTable

variable {t : FileTable} {location other : Location}

def node? (t : FileTable) (location : Location) : Option Node := t.nodes.lookup location

/-- Whether steps can start at a location. -/
def isFolder (t : FileTable) (location : Location) : Bool :=
  match t.node? location with
  | some .folder | some (.fixedFolder _ _) => true
  | _ => false

def isLink (t : FileTable) (location : Location) : Bool :=
  match t.node? location with
  | some (.link _) => true
  | _ => false

/-- A location in a folder, with no link there. -/
def IsPlace (t : FileTable) (location : Location) : Prop :=
  t.isFolder location.tail = true ∧ t.isLink location = false

instance (t : FileTable) (location : Location) : Decidable (t.IsPlace location) := inferInstanceAs (Decidable (_ ∧ _))

/-- Files as a system keeps them: the root and the working directory are folders, whatever there is is in a folder, and
no link leads to another one or out of all folders. -/
structure Coherent (t : FileTable) : Prop where
  root : t.isFolder [] = true
  workingDirectory : t.isFolder t.workingDirectory = true
  inFolder : ∀ entry ∈ t.nodes, t.isFolder entry.1.tail = true
  linked : ∀ entry ∈ t.nodes, ∀ target ∈ entry.2.target?, t.IsPlace target

instance (t : FileTable) : Decidable t.Coherent :=
  decidable_of_iff (t.isFolder [] = true ∧ t.isFolder t.workingDirectory = true ∧
      (∀ entry ∈ t.nodes, t.isFolder entry.1.tail = true) ∧
      ∀ entry ∈ t.nodes, ∀ target ∈ entry.2.target?, t.IsPlace target)
    ⟨fun ⟨root, workingDirectory, inFolder, linked⟩ => ⟨root, workingDirectory, inFolder, linked⟩,
      fun h => ⟨h.root, h.workingDirectory, h.inFolder, h.linked⟩⟩

def set (t : FileTable) (location : Location) (node : Node) : FileTable :=
  { t with nodes := (location, node) :: t.nodes }

@[simp]
theorem node?_set (t : FileTable) (location : Location) (node : Node) :
    (t.set location node).node? location = some node := by
  simp [node?, set]

theorem node?_set_of_ne (t : FileTable) (node : Node) (h : other ≠ location) :
    (t.set location node).node? other = t.node? other := by
  have hne : (other == location) = false := by simpa using h
  simp [node?, set, List.lookup_cons, hne]

theorem mem_nodes_of_node? {node : Node} (h : t.node? location = some node) : (location, node) ∈ t.nodes := by
  obtain ⟨before, after, hnodes, -⟩ := List.lookup_eq_some_iff.1 h
  simp [hnodes]

theorem exists_node_of_isFolder (h : t.isFolder location = true) : ∃ node, t.node? location = some node := by
  unfold isFolder at h
  cases hnode : t.node? location with
  | none => simp [hnode] at h
  | some node => exact ⟨node, rfl⟩

theorem isLink_of_isFolder (h : t.isFolder location = true) : t.isLink location = false := by
  unfold isFolder at h
  unfold isLink
  split <;> simp_all

/-- A folder is still one when a file is put where no folder is. -/
theorem isFolder_set_file {folder : Location} (bytes : List UInt8) (hplain : t.isFolder location = false)
    (hfolder : t.isFolder folder = true) : (t.set location (.file bytes)).isFolder folder = true := by
  have hne : folder ≠ location := by
    rintro rfl
    simp [hplain] at hfolder
  unfold isFolder
  rw [t.node?_set_of_ne _ hne]
  exact hfolder

theorem isLink_set_file (bytes : List UInt8) (h : t.isLink other = false) :
    (t.set location (.file bytes)).isLink other = false := by
  by_cases heq : other = location
  · simp [isLink, heq]
  · simpa only [isLink, t.node?_set_of_ne _ heq] using h

namespace Coherent

theorem isFolder_tail (h : t.Coherent) (hfolder : t.isFolder location = true) : t.isFolder location.tail = true := by
  obtain ⟨node, hnode⟩ := exists_node_of_isFolder hfolder
  exact h.inFolder _ (mem_nodes_of_node? hnode)

theorem isPlace_of_isFolder (h : t.Coherent) (hfolder : t.isFolder location = true) : t.IsPlace location :=
  ⟨h.isFolder_tail hfolder, isLink_of_isFolder hfolder⟩

/-- A file can be put wherever there is no link and no folder. -/
theorem set_file (h : t.Coherent) (hplace : t.IsPlace location) (hplain : t.isFolder location = false)
    (bytes : List UInt8) : (t.set location (.file bytes)).Coherent where
  root := isFolder_set_file bytes hplain h.root
  workingDirectory := isFolder_set_file bytes hplain h.workingDirectory
  inFolder := by
    intro entry hentry
    rcases List.mem_cons.1 hentry with rfl | hold
    · exact isFolder_set_file bytes hplain hplace.1
    · exact isFolder_set_file bytes hplain (h.inFolder entry hold)
  linked := by
    intro entry hentry target htarget
    rcases List.mem_cons.1 hentry with rfl | hold
    · cases htarget
    · obtain ⟨hfolder, hlink⟩ := h.linked entry hold target htarget
      exact ⟨isFolder_set_file bytes hplain hfolder, isLink_set_file bytes hlink⟩

end Coherent

end FileTable

structure FileTree extends FileTable where
  coherent : toFileTable.Coherent
deriving DecidableEq, Repr

namespace FileTree

variable {t : FileTree} {location start : Location}

/-- The files of a table, if a system can have them. -/
def ofTable? (table : FileTable) : Option FileTree :=
  if coherent : table.Coherent then some { table with coherent } else none

def bare : FileTree where
  workingDirectory := []
  nodes := [([], .folder)]
  coherent := by decide

/-! ## Walks -/

/-- Where a location leads: to the end of the link there, which is no link, or to itself. -/
def settle (t : FileTree) (location : Location) : Location :=
  match t.node? location with
  | some (.link target) => target
  | _ => location

/-- Whether a name is short enough for the folder at a location. -/
def admits (t : FileTree) (location : Location) (name : String) : Bool :=
  match t.node? location with
  | some (.fixedFolder _ true) => true
  | _ => name.utf8ByteSize ≤ Path.nameLimit

def follow (t : FileTree) (location : Location) : Path.Step → Except PathFault Location
  | .stay => .ok location
  | .up => .ok location.tail
  | .down name => if t.admits location name then .ok (t.settle (name :: location)) else .error .nameTooLong

/-- Where steps lead, each of them from a folder. -/
def walk (t : FileTree) (location : Location) : List Path.Step → Except PathFault Location
  | [] => .ok location
  | step :: rest =>
    if t.isFolder location then
      match t.follow location step with
      | .error fault => .error fault
      | .ok next => t.walk next rest
    else if (t.node? location).isSome then .error .notDirectory
    else .error .absent

def origin (t : FileTree) (path : Path) : Location := if path.absolute then [] else t.workingDirectory

theorem eq_settle_of_follow {folder : Location} {name : String} (h : t.follow folder (.down name) = .ok location) :
    location = t.settle (name :: folder) := by
  rw [follow] at h
  by_cases hname : t.admits folder name = true <;> simp_all

theorem walk_cons_eq_ok {step : Path.Step} {rest : List Path.Step} :
    t.walk start (step :: rest) = .ok location ↔
      t.isFolder start = true ∧ ∃ next, t.follow start step = .ok next ∧ t.walk next rest = .ok location := by
  rw [walk]
  by_cases hfolder : t.isFolder start = true
  · rw [if_pos hfolder]
    cases t.follow start step <;> simp [hfolder]
  · rw [if_neg hfolder]
    by_cases hthere : (t.node? start).isSome = true <;> simp [hfolder, hthere]

theorem settle_of_not_isLink (h : t.isLink location = false) : t.settle location = location := by
  unfold FileTable.isLink at h
  unfold settle
  split <;> simp_all

/-- A name in a folder leads to a place, whether something is there or not. -/
theorem isPlace_settle {folder : Location} (hfolder : t.isFolder folder = true) (name : String) :
    t.IsPlace (t.settle (name :: folder)) := by
  unfold settle
  split
  · next target hnode => exact t.coherent.linked _ (FileTable.mem_nodes_of_node? hnode) target rfl
  · next hnode =>
    refine ⟨hfolder, ?_⟩
    unfold FileTable.isLink
    split
    · next target htarget => exact absurd htarget (hnode target)
    · rfl

theorem isPlace_of_follow {folder : Location} (hfolder : t.isFolder folder = true) {step : Path.Step}
    (hstep : t.follow folder step = .ok location) : t.IsPlace location := by
  cases step with
  | stay =>
    obtain rfl : folder = location := Except.ok.inj hstep
    exact t.coherent.isPlace_of_isFolder hfolder
  | up =>
    obtain rfl : folder.tail = location := Except.ok.inj hstep
    exact t.coherent.isPlace_of_isFolder (t.coherent.isFolder_tail hfolder)
  | down name =>
    obtain rfl := eq_settle_of_follow hstep
    exact isPlace_settle hfolder name

/-- A walk from a place ends at a place. -/
theorem isPlace_of_walk (hstart : t.IsPlace start) {steps : List Path.Step}
    (hwalk : t.walk start steps = .ok location) : t.IsPlace location := by
  induction steps generalizing start with
  | nil =>
    cases hwalk
    exact hstart
  | cons step steps ih =>
    obtain ⟨hfolder, next, hnext, hwalk⟩ := walk_cons_eq_ok.1 hwalk
    exact ih (isPlace_of_follow hfolder hnext) hwalk

theorem isFolder_origin (t : FileTree) (path : Path) : t.isFolder (t.origin path) = true := by
  unfold origin
  split
  · exact t.coherent.root
  · exact t.coherent.workingDirectory

theorem isPlace_of_walk_origin {path : Path} {steps : List Path.Step}
    (h : t.walk (t.origin path) steps = .ok location) : t.IsPlace location :=
  isPlace_of_walk (t.coherent.isPlace_of_isFolder (t.isFolder_origin path)) h

/-! ## Reading -/

/-- The contents of what is at a place. Bytes that never end are read until there is no memory for more. -/
def contents (t : FileTree) (location : Location) : Except PathFault (List UInt8) :=
  match t.node? location with
  | none | some (.link _) => .error .absent
  | some .folder | some (.fixedFolder _ _) => .error .isDirectory
  | some (.closed fault) => .error fault
  | some (.file bytes) | some (.fixedFile bytes _) | some (.device _ (.bytes bytes)) => .ok bytes
  | some (.device _ .endless) => .error .outOfMemory

/-- The contents of the file to which a path leads; a slash at its end asks for a folder. -/
def read (t : FileTree) (text : String) : Except PathFault (List UInt8) :=
  match Path.ofText text with
  | .error fault => .error fault
  | .ok path =>
    match t.walk (t.origin path) path.steps with
    | .error fault => .error fault
    | .ok location =>
      if path.closed && (t.node? location).isSome && !t.isFolder location then .error .notDirectory
      else t.contents location

/-! ## Writing -/

/-- A place at which there is a file or can be one. -/
structure Slot (t : FileTree) where
  location : Location
  isPlace : t.IsPlace location
  isPlain : t.isFolder location = false
deriving DecidableEq, Repr

/-- The files with these bytes, and nothing else, in a slot. -/
def put (t : FileTree) (slot : t.Slot) (bytes : List UInt8) : FileTree where
  toFileTable := t.set slot.location (.file bytes)
  coherent := t.coherent.set_file slot.isPlace slot.isPlain bytes

inductive Destination (t : FileTree) where
  | file (slot : t.Slot)
  | device (d : Device)
deriving DecidableEq, Repr

/-- The steps of a path to something that takes bytes: a name with a slash after it can only be meant for a folder,
so it is as good as the folder that it is in. -/
def takingSteps (path : Path) : List Path.Step :=
  match path.closed, path.steps.getLast? with
  | true, some (.down _) => path.steps.dropLast ++ [.stay]
  | _, _ => path.steps

/-- Where bytes for a place go. What is not there is made, unless the folder that it would be in has it otherwise. -/
def opened (t : FileTree) (location : Location) (isPlace : t.IsPlace location) : Except PathFault t.Destination :=
  if hfolder : t.isFolder location = true then .error .isDirectory
  else
    let slot : t.Slot := ⟨location, isPlace, Bool.eq_false_iff.2 hfolder⟩
    match t.node? location with
    | some (.fixedFile _ fault) | some (.closed fault) => .error fault
    | some (.device d _) => .ok (.device d)
    | some (.file _) => .ok (.file slot)
    | _ =>
      match t.node? location.tail with
      | some (.fixedFolder fault _) => .error fault
      | _ => .ok (.file slot)

def destination (t : FileTree) (text : String) : Except PathFault t.Destination :=
  match Path.ofText text with
  | .error fault => .error fault
  | .ok path =>
    match hwalk : t.walk (t.origin path) (takingSteps path) with
    | .error fault => .error fault
    | .ok location => t.opened location (isPlace_of_walk_origin hwalk)

end FileTree

end Orbit
