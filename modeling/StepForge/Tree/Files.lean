import StepForge.Text.Quoted
import StepForge.Text.Utf8
import StepForge.Tree.Basic

/-!
# `StepForge.Tree.Files` — files and directories by path

A path is followed name by name; two dots lead back, also out of the tree, where nothing stands but
what was put there. The system takes a path as bytes, so that one with a lone surrogate is none that it can
be asked for. Making a directory with its parents keeps the parents that were made when
a later one cannot be, and writing a text empties the file before the text is encoded.

## Contents
- `FileCause`, `FileFault`, `TextFault` — what can go wrong.
- `Path.encodeFault?`, `Path.textFault` — paths without bytes.
- `Spot`, `Tree.locate` — where a path leads.
- `stat?`, `isDir`, `readBytes`, `readText` — looking.
- `makeDir`, `makeDirs`, `writeBytes`, `writeText`, `remove` — changing.
- `listing` — everything below a path.
-/

namespace StepForge

/-! ## Faults -/

/-- Why a file operation fails. -/
inductive FileCause where
  | missing
  | taken
  | notDirectory
  | isDirectory
  | nameTooLong
  deriving DecidableEq

namespace FileCause

/-- The number of the cause. -/
def number : FileCause → Nat
  | missing => 2
  | taken => 17
  | notDirectory => 20
  | isDirectory => 21
  | nameTooLong => 36

/-- The words of the cause. -/
def words : FileCause → Text
  | missing => "No such file or directory"
  | taken => "File exists"
  | notDirectory => "Not a directory"
  | isDirectory => "Is a directory"
  | nameTooLong => "File name too long"

end FileCause

/-- A failed file operation: a cause at a path, or a path that the system cannot take, for a null character or
for want of bytes. -/
inductive FileFault where
  | system (cause : FileCause) (path : Path)
  | nullCharacter
  deriving DecidableEq

/-- The text of the fault. -/
def FileFault.message : FileFault → Text
  | system cause path =>
      ("[Errno " : Text) ++ Text.ofNat cause.number ++ "] " ++ cause.words ++ ": "
        ++ Text.quoted path.text
  | nullCharacter => "embedded null byte"

/-- A failed operation on a text file. -/
inductive TextFault where
  | file (fault : FileFault)
  | encoding (fault : Utf8.EncodeFault)
  | decoding (fault : Utf8.DecodeFault)
  deriving DecidableEq

/-! ## Paths without bytes -/

namespace Path

/-- Whether a code point stands for a byte that is part of no text: half of a surrogate pair of one range. -/
def isRawByte (c : CodePoint) : Bool := 0xDC80 ≤ c && c ≤ 0xDCFF

/-- Whether a code point of a path has bytes. -/
def hasBytes (c : CodePoint) : Bool := isRawByte c || (Utf8.encodePoint? c).isSome

/-- What is wrong with the written form of a path whose first code point stands at `position`: the first code
points without bytes. -/
def encodeFaultFrom (position : Nat) : Text → Option Utf8.EncodeFault
  | [] => none
  | c :: t =>
      if hasBytes c then encodeFaultFrom (position + 1) t
      else some ⟨c, position, 1 + (t.takeWhile Utf8.isSurrogate).length⟩

/-- What keeps a path from having bytes, if anything does. -/
def encodeFault? (p : Path) : Option Utf8.EncodeFault := encodeFaultFrom 0 p.text

/-- The fault of a text file at a path at which a file operation failed. That a path has no bytes is
found before anything else. -/
def textFault (p : Path) (fault : FileFault) : TextFault :=
  match p.encodeFault? with
  | some f => .encoding f
  | none => .file fault

end Path

/-! ## Following paths -/

/-- Where a path leads in a tree: to something, or to a free name in a directory. -/
inductive Spot (t : Tree) where
  | present (l : Location) (e : Entry) (there : t.at? l = some e)
  | vacant (l : Location) (n : Text) (free : t.at? l = some .dir ∧ t.at? (l ++ [n]) = none)

/-- The number of bytes of a name. -/
def nameSize (n : Text) : Nat :=
  (n.map fun c =>
    if c < 0x80 || Path.isRawByte c then 1 else if c < 0x800 then 2 else if c < 0x10000 then 3 else 4).foldr Nat.add 0

/-- The largest number of bytes of a name. -/
def nameLimit : Nat := 255

/-- The number of bytes that a path stays below. -/
def pathLimit : Nat := 4096

namespace Tree

/-- What stands above a location that is there is a directory. -/
theorem at?_above {t : Tree} {l : Location} {e : Entry} (h : t.at? l = some e) :
    t.at? (above l) = some .dir := by
  unfold above
  split
  · next hl =>
      subst hl
      exact t.at?_of_isAbove isAbove_root
  · split
    · next hl => exact t.at?_of_isAbove (by simp [isAbove, hl])
    · next hl =>
        have hne : l ≠ [] := by
          intro h
          subst h
          exact hl rfl
        rw [← List.dropLast_concat_getLast hne] at h
        exact at?_parent h

/-- Follows names from a location. -/
def follow (t : Tree) : (l : Location) → (e : Entry) → t.at? l = some e → List Text →
    Except FileCause (Spot t)
  | l, e, there, [] => .ok (.present l e there)
  | _, .file _, _, _ :: _ => .error .notDirectory
  | l, .dir, there, n :: names =>
      if n = back then t.follow (above l) .dir (at?_above there) names
      else if nameLimit < nameSize n then .error .nameTooLong
      else match h : t.at? (l ++ [n]) with
        | some e => t.follow (l ++ [n]) e h names
        | none => match names with
          | [] => .ok (.vacant l n ⟨there, h⟩)
          | _ :: _ => .error .missing

/-- Where a path leads. -/
def locate (t : Tree) (p : Path) : Except FileFault (Spot t) :=
  if p.encodeFault?.isSome || p.names.any (·.contains 0) then .error .nullCharacter
  else if pathLimit ≤ nameSize p.text then .error (.system .nameTooLong p)
  else
    let spot :=
      if p.rooted then t.follow [root] .dir (t.at?_of_isAbove isAbove_root) p.names
      else t.follow [] .dir t.at?_nil p.names
    spot.mapError fun cause => .system cause p

/-! ## Looking -/

/-- What stands at a path, if anything can; a name that is too long is a fault. -/
def stat? (t : Tree) (p : Path) : Except FileFault (Option Entry) :=
  match t.locate p with
  | .ok (.present _ e _) => .ok (some e)
  | .ok (.vacant _ _ _) => .ok none
  | .error (.system .nameTooLong p) => .error (.system .nameTooLong p)
  | .error _ => .ok none

/-- Whether a directory stands at a path. -/
def isDir (t : Tree) (p : Path) : Bool :=
  match t.locate p with
  | .ok (.present _ .dir _) => true
  | _ => false

/-- The bytes of a file. -/
def readBytes (t : Tree) (p : Path) : Except FileFault (List UInt8) :=
  match t.locate p with
  | .ok (.present _ (.file bytes) _) => .ok bytes
  | .ok (.present _ .dir _) => .error (.system .isDirectory p)
  | .ok (.vacant _ _ _) => .error (.system .missing p)
  | .error fault => .error fault

/-- The text of a file, with line feeds for all line ends. -/
def readText (t : Tree) (p : Path) : Except TextFault Text :=
  match t.readBytes p with
  | .error fault => .error (p.textFault fault)
  | .ok bytes => match Utf8.decode bytes with
    | .error fault => .error (.decoding fault)
    | .ok text => .ok (Utf8.universalLines text)

/-! ## Changing -/

/-- A new directory in a directory that is there. -/
def makeDir (t : Tree) (p : Path) : Except FileFault Tree :=
  match t.locate p with
  | .ok (.present _ _ _) => .error (.system .taken p)
  | .ok (.vacant l n free) => .ok (t.place l n .dir free)
  | .error fault => .error fault

/-- The tree after a change, and whether the change failed. -/
structure Change (ε : Type) where
  tree : Tree
  result : Except ε Unit

/-- A directory with up to `depth` of its parents; one that is there is no fault. -/
def makeDirsWithin : (depth : Nat) → Tree → Path → Change FileFault
  | depth, t, p =>
      match t.makeDir p with
      | .ok t => ⟨t, .ok ()⟩
      | .error (.system .missing p') =>
          match depth with
          | 0 => ⟨t, .error (.system .missing p')⟩
          | depth + 1 =>
              -- What was made of the parents stays, even if this directory cannot be made.
              let made := makeDirsWithin depth t p.parent
              match made.result with
              | .error fault => ⟨made.tree, .error fault⟩
              | .ok () =>
                  match made.tree.makeDir p with
                  | .ok t => ⟨t, .ok ()⟩
                  | .error (.system cause p') =>
                      ⟨made.tree,
                        if cause ≠ .missing && made.tree.isDir p then .ok ()
                        else .error (.system cause p')⟩
                  | .error .nullCharacter => ⟨made.tree, .error .nullCharacter⟩
      | .error (.system cause p') => ⟨t, if t.isDir p then .ok () else .error (.system cause p')⟩
      | .error .nullCharacter => ⟨t, .error .nullCharacter⟩

/-- A directory with its parents. -/
def makeDirs (t : Tree) (p : Path) : Change FileFault := makeDirsWithin p.names.length t p

/-- A file with the given bytes, in a directory that is there. -/
def writeBytes (t : Tree) (p : Path) (bytes : List UInt8) : Except FileFault Tree :=
  match t.locate p with
  | .ok (.present l (.file old) there) => .ok (t.refill l old bytes there)
  | .ok (.present _ .dir _) => .error (.system .isDirectory p)
  | .ok (.vacant l n free) => .ok (t.place l n (.file bytes) free)
  | .error fault => .error fault

/-- A text put into a file of a directory that is there: the file is emptied first, so it stays empty
when the text has no bytes. -/
def putText (t : Tree) (p : Path) (text : Text) : Change TextFault :=
  match t.writeBytes p [] with
  | .error fault => ⟨t, .error (p.textFault fault)⟩
  | .ok emptied =>
      match Utf8.encode text with
      | .error fault => ⟨emptied, .error (.encoding fault)⟩
      | .ok bytes =>
          match emptied.writeBytes p bytes with
          | .error fault => ⟨emptied, .error (p.textFault fault)⟩
          | .ok written => ⟨written, .ok ()⟩

/-- A text put into a file, with the directories that lead to it. -/
def writeText (t : Tree) (p : Path) (text : Text) : Change TextFault :=
  let made := t.makeDirs p.parent
  match made.result with
  | .error fault => ⟨made.tree, .error (p.parent.textFault fault)⟩
  | .ok () => made.tree.putText p text

/-- The tree without what stands at a path; the top and what is above it stay. -/
def remove (t : Tree) (p : Path) : Except FileFault Tree :=
  match t.locate p with
  | .ok (.present l _ _) => if h : isAbove l = false then .ok (t.prune l h) else .error (.system .isDirectory p)
  | .ok (.vacant _ _ _) => .error (.system .missing p)
  | .error fault => .error fault

/-! ## Listing -/

/-- Everything below a path that is a directory, by the names that lead from it. -/
def listing (t : Tree) (p : Path) : List (Text × Entry) :=
  match t.locate p with
  | .ok (.present l .dir _) =>
      Text.sortBy (·.1) ((t.below l).map fun (names, e) => (Text.join "/" names, e))
  | _ => []

end Tree
end StepForge
