import SecurityEvents.Provider.Basic
set_option autoImplicit false

/-!
# Directories of profiles

Each file with the extension `json` in a directory holds a profile. They are listed in the order of the
UTF-8 form of their names, whatever order the system gives them in. One bad file spoils the list: the first
in that order is blamed. A folder with that extension is a bad file; what folders hold is not looked at.

Nothing is remembered from one listing to the next, so a directory may change in between.
-/

namespace SecurityEvents

/-- What stands under a name in a directory. -/
inductive DirectoryEntry where
  | file (octets : ByteArray)
  | folder
  /-- Something that cannot be read, such as a link to nowhere. -/
  | unreadable

/-- A directory, in which no name stands twice. The names are texts: one whose octets are not UTF-8 is not among
them. -/
structure Directory where
  /-- What the directory is called. -/
  path : String
  /-- What is in it, if it can be read. -/
  entries : Option (List (String × DirectoryEntry))

namespace Directory

/-- The extension of a name: what follows its last dot. A name whose only dot stands in front has none. -/
def extension? (name : String) : Option String :=
  let cs := name.toList
  let extension := (cs.reverse.takeWhile (· ≠ '.')).reverse
  if extension.length + 1 < cs.length then some (String.ofList extension) else none

/-- The extension follows the last dot, which has to have something in front of it. -/
theorem extension?_append {stem extension : List Char} (h : stem ≠ []) (hd : '.' ∉ extension) :
    extension? (String.ofList (stem ++ '.' :: extension)) = some (String.ofList extension) := by
  have hr : ∀ c ∈ extension.reverse, decide (c ≠ '.') = true := fun c hc => by
    simp only [decide_eq_true_eq]
    rintro rfl
    exact hd (List.mem_reverse.1 hc)
  have hpos : 0 < stem.length := List.length_pos_iff.2 h
  simp only [extension?, String.toList_ofList, List.reverse_append, List.reverse_cons, List.append_assoc,
    List.takeWhile_append_of_pos hr]
  simp
  omega

/-- Whether a profile is expected under the name. -/
def isProfileName (name : String) : Bool :=
  extension? name = some "json"

/-- The entries where profiles are expected, in order. -/
def profileEntries (entries : List (String × DirectoryEntry)) : List (String × DirectoryEntry) :=
  (entries.filter fun e => isProfileName e.1).mergeSort fun a b => a.1 ≤ b.1

/-- The profile in an entry. -/
def profile? : DirectoryEntry → Option Profile
  | .file octets => Profile.reading.ofPlaces (Text.places octets)
  | .folder | .unreadable => none

/-- Where an entry of a directory stands. A path that ends with a slash gets no other. -/
def entryPath (path name : String) : String :=
  if path.toList.getLast?.all (· == '/') then path ++ name else path ++ "/" ++ name

/-- The profiles in entries, up to the first bad one. What the system or the parser says of it is left out. -/
def load (path : String) : List (String × DirectoryEntry) → Act Directory (Except Error (List Profile))
  | [] => pure (.ok [])
  | (name, entry) :: rest => do
    match profile? entry with
    | none => return .error (.catalogUnavailable (entryPath path name))
    | some profile =>
      Act.note (.profileLoaded profile.name)
      return (← load path rest).map (profile :: ·)

/-- The directory as a provider. What the system says of a directory that cannot be read is left out. -/
def provider : Provider Directory where
  list := do
    let directory ← Act.state
    match directory.entries with
    | none => return .error (.catalogUnavailable directory.path)
    | some entries => load directory.path (profileEntries entries)

/-- The entry that a path from the directory leads to. A path with further names ends inside a folder, where
no profiles are looked for. -/
def entryName? (path : String) : Option String :=
  match (path.splitOn "/").filter fun step => step ≠ "" && step ≠ "." with
  | [name] => some name
  | _ => none

/-- The directory without the entry at a path. -/
def remove (d : Directory) (path : String) : Directory :=
  match entryName? path with
  | none => d
  | some name => { d with entries := d.entries.map fun es => es.filter (·.1 ≠ name) }

/-- The directory with an entry at a path; one that was there is replaced. -/
def put (d : Directory) (path : String) (entry : DirectoryEntry) : Directory :=
  match entryName? path with
  | none => d
  | some name =>
    { d with entries := d.entries.map fun es => es.filter (·.1 ≠ name) ++ [(name, entry)] }

/-! ## Directories that change -/

/-- A change of a directory. -/
inductive Edit where
  | put (path : String) (entry : DirectoryEntry)
  | remove (path : String)

/-- The directory after a change. -/
def edit (d : Directory) : Edit → Directory
  | .put path entry => d.put path entry
  | .remove path => d.remove path

/-- The directory after changes. -/
def edited (d : Directory) (edits : List Edit) : Directory :=
  edits.foldl edit d

/-- What happens to a directory: a change, or a listing of the profiles. -/
inductive Visit where
  | edit (e : Edit)
  | list

/-- The changes among what happens. -/
def changes : List Visit → List Edit
  | [] => []
  | .edit e :: visits => e :: changes visits
  | .list :: visits => changes visits

/-- All that happens, in order, and what the listings answer. -/
def attend : List Visit → Act Directory (List (Except Error (List Profile)))
  | [] => pure []
  | .edit e :: visits => do
    let directory ← Act.state
    Act.setState (directory.edit e)
    attend visits
  | .list :: visits => do
    let answer ← provider.list
    return answer :: (← attend visits)

end Directory

end SecurityEvents
