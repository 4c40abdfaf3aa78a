import HtmlText.Text.Pieces

/-!
# Files

The files that a run of the command can see. A name leads from the working directory, or from the
root of the system if it begins with a slash, through directories to a file. Inside the working
directory there are the files that are given, and a directory is there if a file is in it. Of the
directories around it no more is known than that they are there, and of the system only the common
directories and devices.

## Main definitions

* `FileError`: why a file cannot be read or written.
* `FilePath`: a name taken apart.
* `Files`: names with their contents.
* `Files.read`: the contents of a file.
* `Files.destination`, `Files.put`: where a text goes that is written, and the files after that.

## Main results

* `Files.leadsTo_of_destination`: the names under which a text is written to a file.
* `Files.isNamed_of_destination`: such a file has a name.
-/

namespace HtmlText

/-- Why a file cannot be read or written. -/
inductive FileError
  | notFound
  | isDirectory
  | notDirectory
  | nameTooLong
  | noSpace
  /-- The contents are no text. -/
  | notText
  /-- Some other reason, in the words of the system. -/
  | other (message : String)
deriving Repr, DecidableEq

/-- The text of the error. -/
def FileError.message : FileError → String
  | notFound => "No such file or directory (os error 2)"
  | isDirectory => "Is a directory (os error 21)"
  | notDirectory => "Not a directory (os error 20)"
  | nameTooLong => "File name too long (os error 36)"
  | noSpace => "No space left on device (os error 28)"
  | notText => "stream did not contain valid UTF-8"
  | other message => message

/-- The text that bytes encode. -/
def decodeText (bytes : ByteArray) : Except FileError String :=
  match String.fromUTF8? bytes with
  | some s => .ok s
  | none => .error .notText

/-! ### Names -/

/-- A name taken apart. -/
structure FilePath where
  /-- The name begins at the root of the system. -/
  fromRoot : Bool
  /-- What stands between slashes. Empty parts mean nothing and are left out. -/
  parts : List (List Char)
  /-- The name ends with a slash, as only that of a directory should. -/
  ofDirectory : Bool
deriving Repr, DecidableEq

namespace FilePath

/-- Take a name apart. -/
def ofName (name : String) : FilePath :=
  let parts := pieces '/' name.toList
  { fromRoot := name.toList.head? = some '/'
    parts := parts.filter (· ≠ [])
    ofDirectory := name.toList.getLast? = some '/' }

/-- The name with given parts. -/
def joined (parts : List (List Char)) : String := String.ofList (['/'].intercalate parts)

/-- Parts that make up a name. -/
def IsNamed (parts : List (List Char)) : Prop := ∀ part ∈ parts, part ≠ [] ∧ '/' ∉ part

theorem isNamed_ofName (name : String) : IsNamed (ofName name).parts := by
  intro part hpart
  obtain ⟨hpiece, hne⟩ := List.mem_filter.mp hpart
  exact ⟨of_decide_eq_true hne, notMem_of_mem_pieces hpiece⟩

/-- The length in bytes of a part. -/
def partSize (part : List Char) : Nat := part.foldl (fun n c => n + c.utf8Size) 0

/-- The greatest length of a part. -/
def partLimit : Nat := 255

/-- A part of a name that can be that of a file. -/
def IsPlain (part : List Char) : Prop :=
  part ≠ ['.'] ∧ part ≠ ['.', '.'] ∧ partSize part ≤ partLimit

/-- The greatest length of a name. -/
def nameLimit : Nat := 4095

end FilePath

/-! ### Places -/

/-- A directory. -/
inductive Place
  /-- The working directory, or a directory in it. -/
  | inside (parts : List (List Char))
  /-- A directory around the working directory. -/
  | around
  /-- A directory of the system. -/
  | system (parts : List (List Char))
deriving Repr, DecidableEq

namespace Place

/-- The directory that a directory lies in. The root lies in itself. -/
def parent : Place → Place
  | inside [] => around
  | inside parts => inside parts.dropLast
  | around => around
  | system parts => system parts.dropLast

/-- The way to a directory inside the working directory consists of parts that make up a name. -/
def IsNamed : Place → Prop
  | inside parts => FilePath.IsNamed parts
  | around | system _ => True

theorem IsNamed.parent {place : Place} (h : place.IsNamed) : place.parent.IsNamed := by
  cases place with
  | inside parts =>
    cases parts with
    | nil => trivial
    | cons part parts => exact fun other hother => h other (List.dropLast_subset _ hother)
  | around | system parts => trivial

end Place

/-- The directories of the system. -/
def systemDirectories : List String :=
  ["bin", "boot", "dev", "dev/fd", "etc", "home", "lib", "media", "mnt", "opt", "proc", "proc/self",
    "proc/self/fd", "root", "run", "sbin", "srv", "sys", "tmp", "usr", "usr/bin", "usr/lib",
    "usr/local", "usr/sbin", "usr/share", "var", "var/lib", "var/log", "var/tmp"]

/-- What stands in the system in place of files. -/
inductive Device
  /-- Nothing can be read from it, and what is written is lost. -/
  | sink
  /-- Nothing can be written, because there is no space. -/
  | full
  /-- The standard input. -/
  | input
  /-- The standard output. -/
  | output
  /-- The standard error output. -/
  | report
deriving Repr, DecidableEq

/-- The devices of the system. -/
def devices : List (String × Device) :=
  [("dev/null", .sink), ("dev/full", .full), ("dev/stdin", .input), ("dev/stdout", .output),
    ("dev/stderr", .report), ("dev/fd/0", .input), ("dev/fd/1", .output), ("dev/fd/2", .report),
    ("proc/self/fd/0", .input), ("proc/self/fd/1", .output), ("proc/self/fd/2", .report)]

/-- What a name in a directory stands for. -/
inductive Occupant
  | directory (place : Place)
  | file (parts : List (List Char)) (bytes : ByteArray)
  | device (d : Device)

/-- Where a text goes that is written. -/
inductive Destination
  /-- To a file inside the working directory. -/
  | file (parts : List (List Char))
  /-- To the standard output. -/
  | output
  /-- To the standard error output. -/
  | report
  /-- To where nobody looks for it. -/
  | elsewhere
deriving Repr, DecidableEq

/-- Where a text goes that is written to a device. -/
def Device.destination : Device → Except FileError Destination
  | sink | input => .ok .elsewhere
  | full => .error .noSpace
  | output => .ok .output
  | report => .ok .report

/-- Where a text goes that is written under a new name. -/
def Place.destination (place : Place) (part : List Char) : Destination :=
  match place with
  | inside parts => .file (parts ++ [part])
  | around | system _ => .elsewhere

/-! ### Files -/

/-- Names with their contents. -/
structure Files where
  entries : List (String × ByteArray)

namespace Files

/-- The contents under the parts of a name. -/
def find? (files : Files) (parts : List (List Char)) : Option ByteArray :=
  (files.entries.find? fun entry => (FilePath.ofName entry.1).parts = parts).map (·.2)

/-- Whether parts of a name lead to a directory. -/
def hasDirectory (files : Files) (parts : List (List Char)) : Bool :=
  files.entries.any fun entry =>
    let other := (FilePath.ofName entry.1).parts
    parts.length < other.length && other.take parts.length = parts

/-- What a name in a directory stands for, if it is not one of the two names that every directory
has. -/
def occupant? (files : Files) (place : Place) (part : List Char) : Option Occupant :=
  match place with
  | .inside parts =>
    let parts := parts ++ [part]
    match files.find? parts with
    | some bytes => some (.file parts bytes)
    | none => if files.hasDirectory parts then some (.directory (.inside parts)) else none
  | .around => none
  | .system parts =>
    let parts := parts ++ [part]
    if systemDirectories.contains (FilePath.joined parts) then some (.directory (.system parts))
    else (devices.lookup (FilePath.joined parts)).map .device

/-- What a name in a directory stands for. One dot names the directory itself, two dots the one that
it lies in. -/
def step (files : Files) (place : Place) (part : List Char) : Except FileError Occupant :=
  if part = ['.'] then .ok (.directory place)
  else if part = ['.', '.'] then .ok (.directory place.parent)
  else if FilePath.partLimit < FilePath.partSize part then .error .nameTooLong
  else
    match files.occupant? place part with
    | some occupant => .ok occupant
    | none => .error .notFound

/-- The directory that parts of a name lead to. -/
def enter (files : Files) (place : Place) : List (List Char) → Except FileError Place
  | [] => .ok place
  | part :: parts =>
    match files.step place part with
    | .ok (.directory place) => files.enter place parts
    | .ok _ => .error .notDirectory
    | .error e => .error e

/-- The directory that a file is in by its name, with the last part of the name. A name without
parts is the root. -/
def locate (files : Files) (name : String) : Except FileError (Place × List Char) :=
  let path := FilePath.ofName name
  let start : Place := if path.fromRoot then .system [] else .inside []
  if FilePath.nameLimit < name.utf8ByteSize then .error .nameTooLong
  else
    (files.enter start path.parts.dropLast).map fun place =>
      (place, path.parts.getLast?.getD ['.'])

/-- The contents of a file. -/
def read (files : Files) (input : ByteArray) (name : String) : Except FileError ByteArray :=
  match files.locate name with
  | .error e => .error e
  | .ok (place, part) =>
    match files.step place part with
    | .error e => .error e
    | .ok (.directory _) => .error .isDirectory
    | .ok (.file _ bytes) =>
      if (FilePath.ofName name).ofDirectory then .error .notDirectory else .ok bytes
    | .ok (.device d) =>
      if (FilePath.ofName name).ofDirectory then .error .notDirectory
      else .ok (if d = .input then input else ByteArray.empty)

/-- Where a text goes that is written under a name. -/
def destination (files : Files) (name : String) : Except FileError Destination :=
  match files.locate name with
  | .error e => .error e
  | .ok (place, part) =>
    if (FilePath.ofName name).ofDirectory then .error .isDirectory
    else
      match files.step place part with
      | .ok (.directory _) => .error .isDirectory
      | .ok (.file parts _) => .ok (.file parts)
      | .ok (.device d) => d.destination
      | .error .notFound => .ok (place.destination part)
      | .error e => .error e

/-- Entries after writing a file, in place of one with the same parts. -/
def replace (parts : List (List Char)) (bytes : ByteArray) :
    List (String × ByteArray) → List (String × ByteArray)
  | [] => [(FilePath.joined parts, bytes)]
  | (name, old) :: entries =>
    if (FilePath.ofName name).parts = parts then (name, bytes) :: entries
    else (name, old) :: replace parts bytes entries

/-- The files after writing one of them. -/
def put (files : Files) (parts : List (List Char)) (bytes : ByteArray) : Files :=
  ⟨replace parts bytes files.entries⟩

/-! ### Where a file is written -/

theorem isNamed_of_occupant? {files : Files} {place next : Place} {part : List Char}
    (hplace : place.IsNamed) (hpart : part ≠ [] ∧ '/' ∉ part)
    (h : files.occupant? place part = some (.directory next)) : next.IsNamed := by
  cases place with
  | inside parts =>
    have hnamed : FilePath.IsNamed (parts ++ [part]) := by
      intro other hother
      rcases List.mem_append.mp hother with hother | hother
      · exact hplace other hother
      · exact List.mem_singleton.mp hother ▸ hpart
    rw [occupant?] at h
    split at h
    · cases h
    · split at h
      · cases h
        exact hnamed
      · cases h
  | around => cases h
  | system parts =>
    rw [occupant?] at h
    split at h
    · cases h
      trivial
    · obtain ⟨d, -, h⟩ := Option.map_eq_some_iff.mp h
      cases h

/-- A part of a name leads from one directory to the next. -/
theorem isNamed_of_step {files : Files} {place next : Place} {part : List Char}
    (hplace : place.IsNamed) (hpart : part ≠ [] ∧ '/' ∉ part)
    (h : files.step place part = .ok (.directory next)) : next.IsNamed := by
  rw [step] at h
  split at h
  · cases h
    exact hplace
  · split at h
    · cases h
      exact hplace.parent
    · split at h
      · cases h
      · split at h
        · next occupant hoccupant =>
          cases h
          exact isNamed_of_occupant? hplace hpart hoccupant
        · cases h

theorem isNamed_of_enter {files : Files} {place last : Place} {parts : List (List Char)}
    (hplace : place.IsNamed) (hparts : FilePath.IsNamed parts)
    (h : files.enter place parts = .ok last) : last.IsNamed := by
  induction parts generalizing place with
  | nil =>
    cases h
    exact hplace
  | cons part parts ih =>
    rw [enter] at h
    split at h
    · next next hnext =>
      have hnamed := isNamed_of_step hplace (hparts part List.mem_cons_self) hnext
      exact ih hnamed (fun other hother => hparts other (List.mem_cons_of_mem part hother)) h
    · cases h
    · cases h

theorem step_of_isPlain {part : List Char} (h : FilePath.IsPlain part) (files : Files)
    (place : Place) :
    files.step place part =
      match files.occupant? place part with
      | some occupant => .ok occupant
      | none => .error .notFound := by
  rw [step, if_neg h.1, if_neg h.2.1, if_neg (Nat.not_lt.mpr h.2.2)]

theorem isPlain_of_step {files : Files} {place : Place} {part : List Char}
    {result : Except FileError Occupant} (h : files.step place part = result)
    (hdirectory : ∀ next, result ≠ .ok (.directory next)) (hlength : result ≠ .error .nameTooLong) :
    FilePath.IsPlain part := by
  subst h
  have hdot : part ≠ ['.'] := fun hdot => hdirectory place (by rw [step, if_pos hdot])
  have hdots : part ≠ ['.', '.'] := fun hdots =>
    hdirectory place.parent (by rw [step, if_neg hdot, if_pos hdots])
  refine ⟨hdot, hdots, Nat.not_lt.mp fun hlong => hlength ?_⟩
  rw [step, if_neg hdot, if_neg hdots, if_pos hlong]

theorem eq_inside_of_occupant? {files : Files} {place : Place} {part : List Char}
    {parts : List (List Char)} {bytes : ByteArray}
    (h : files.occupant? place part = some (.file parts bytes)) :
    ∃ front, place = .inside front ∧ parts = front ++ [part] := by
  cases place with
  | inside front =>
    rw [occupant?] at h
    split at h
    · cases h
      exact ⟨front, rfl, rfl⟩
    · split at h <;> cases h
  | around => cases h
  | system front =>
    rw [occupant?] at h
    split at h
    · cases h
    · obtain ⟨d, -, h⟩ := Option.map_eq_some_iff.mp h
      cases h

/-- What a name says under which a text is written to a file: it leads to a directory inside the
working directory, and its last part stands for a file there or for nothing. -/
structure LeadsTo (files : Files) (name : String) (front : List (List Char)) (part : List Char) :
    Prop where
  locate_eq : files.locate name = .ok (.inside front, part)
  ofDirectory_eq : (FilePath.ofName name).ofDirectory = false
  isPlain : FilePath.IsPlain part
  occupant?_ne : ∀ place, files.occupant? (.inside front) part ≠ some (.directory place)

theorem leadsTo_of_destination {files : Files} {name : String} {parts : List (List Char)}
    (h : files.destination name = .ok (.file parts)) :
    ∃ front part, parts = front ++ [part] ∧ files.LeadsTo name front part := by
  rw [destination] at h
  split at h
  · cases h
  · next place part hlocate =>
    split at h
    · cases h
    · next hslash =>
      split at h
      · cases h
      · next other bytes hstep =>
        cases h
        have hplain : FilePath.IsPlain part := isPlain_of_step hstep (by simp) (by simp)
        rw [step_of_isPlain hplain] at hstep
        split at hstep
        · next occupant hoccupant =>
          cases hstep
          obtain ⟨front, rfl, rfl⟩ := eq_inside_of_occupant? hoccupant
          exact ⟨front, part, rfl, hlocate, (Bool.not_eq_true _).mp hslash, hplain,
            by simp [hoccupant]⟩
        · cases hstep
      · next d hstep => cases d <;> cases h
      · next hstep =>
        have hplain : FilePath.IsPlain part := isPlain_of_step hstep (by simp) (by simp)
        rw [step_of_isPlain hplain] at hstep
        split at hstep
        · cases hstep
        · next hoccupant =>
          cases place with
          | inside front =>
            cases h
            exact ⟨front, part, rfl, hlocate, (Bool.not_eq_true _).mp hslash, hplain,
              by simp [hoccupant]⟩
          | around | system other => cases h
      · cases h

/-- A file that is written has a name. -/
theorem isNamed_of_destination {files : Files} {name : String} {parts : List (List Char)}
    (h : files.destination name = .ok (.file parts)) : FilePath.IsNamed parts := by
  obtain ⟨front, part, rfl, hleads⟩ := leadsTo_of_destination h
  have hlocate := hleads.locate_eq
  have hnamed := FilePath.isNamed_ofName name
  rw [locate] at hlocate
  split at hlocate
  · cases hlocate
  · generalize hstart :
      (if (FilePath.ofName name).fromRoot then .system [] else .inside [] : Place) = start
      at hlocate
    have hstartNamed : start.IsNamed := by
      rw [← hstart]
      split
      · trivial
      · exact fun part hpart => absurd hpart List.not_mem_nil
    cases henter : files.enter start (FilePath.ofName name).parts.dropLast with
    | error e =>
      rw [henter] at hlocate
      cases hlocate
    | ok place =>
      rw [henter] at hlocate
      have hfront := isNamed_of_enter hstartNamed
        (fun other hother => hnamed other (List.dropLast_subset _ hother)) henter
      obtain ⟨rfl, hlast⟩ := Prod.mk.inj (Except.ok.inj hlocate)
      intro other hother
      rcases List.mem_append.mp hother with hother | hother
      · exact hfront other hother
      · obtain rfl := List.mem_singleton.mp hother
        -- A name without parts would end with a dot, which stands for no file.
        cases hend : (FilePath.ofName name).parts.getLast? with
        | none =>
          rw [hend] at hlast
          exact absurd hlast.symm hleads.isPlain.1
        | some last =>
          rw [hend] at hlast
          exact hlast ▸ hnamed last (List.mem_of_getLast? hend)

end Files

end HtmlText
