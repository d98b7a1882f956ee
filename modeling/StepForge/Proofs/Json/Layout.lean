import StepForge.Proofs.Definition.Rewrites
import StepForge.Proofs.Json.Members

/-!
# `StepForge.Proofs.Json.Layout` — JSON texts laid out in lines are read back

A mapping is laid out with each member in a line of its own: the name between quotes, a colon, and the
text of the value, which may be a mapping again. If the names are plain and each value is read back, so is
the mapping.

## Contents
- `Reads` — a text that is read as a value, whatever stands behind it.
- `Member`, `Member.text`, `mappingText` — members, and mappings laid out in lines.
- `reads_stringText`, `reads_mapping` — texts between quotes and mappings are read back.
- `member?_mapping` — the members of such a mapping.
- `read_of_reads` — a whole text.
-/

namespace StepForge.Json

open Reader

/-- A text that is read as a value, whatever stands behind it, if there is enough fuel. -/
structure Reads (need : Nat) (t : Text) (v : Value) : Prop where
  start : ∀ rest, skipSpace (t ++ rest) = t ++ rest
  value : ∀ {fuel} rest, need ≤ fuel → value fuel (t ++ rest) = .ok (v, rest)

theorem Reads.mono {need more : Nat} {t : Text} {v : Value} (h : Reads need t v) (hmore : need ≤ more) :
    Reads more t v :=
  ⟨h.start, fun rest hfuel => h.value rest (Nat.le_trans hmore hfuel)⟩

/-- A text between double quotes. -/
def stringText (t : Text) : Text := ['"'.toNat] ++ t ++ ['"'.toNat]

/-- A member of a mapping: its name, and a value with its text. -/
structure Member where
  name : Text
  text : Text
  value : Value

namespace Member

/-- A member in its line. -/
def line (m : Member) : Text := stringText m.name ++ (": " : Text) ++ m.text

/-- A member as an entry. -/
def entry (m : Member) : Value × Value := (.str m.name, m.value)

/-- A member that is read back. -/
structure Readable (need : Nat) (m : Member) : Prop where
  name : Plain m.name
  value : Reads need m.text m.value

/-- A member that is a text. -/
def ofText (name t : Text) : Member := ⟨name, stringText t, .str t⟩

end Member

/-- A mapping in lines: what stands in front of each member, and what stands behind the last. -/
def mappingText (gap last : Text) (ms : List Member) : Text :=
  ("\x7b" : Text) ++ gap ++ Text.join ((",": Text) ++ gap) (ms.map Member.line) ++ last ++ "\x7d"

/-! ## Texts between quotes -/

theorem reads_stringText {t : Text} (h : Plain t) : Reads 1 (stringText t) (.str t) where
  start rest := rfl
  value {fuel} rest hfuel := by
    obtain ⟨fuel, rfl⟩ : ∃ n, fuel = n + 1 := ⟨fuel - 1, by omega⟩
    show Reader.value (fuel + 1) ('"'.toNat :: (t ++ ['"'.toNat] ++ rest)) = _
    rw [Reader.value]
    dsimp only
    rw [if_pos rfl, List.append_assoc, List.singleton_append, string_plain _ h]
    rfl

/-! ## Mappings -/

theorem skipSpace_append {gap : Text} (h : ∀ c ∈ gap, isSpace c = true) (t : Text) :
    skipSpace (gap ++ t) = skipSpace t :=
  List.dropWhile_append_of_pos h

section

variable {m : Member} {need fuel : Nat} {behind more rest : Text} {es : List (Value × Value)}

/-- What the reader finds in the line of a member. -/
theorem line_of_readable (h : m.Readable need) (hfuel : need ≤ fuel) (behind : Text) :
    ∃ tail colon left, m.line ++ behind = 0x22 :: tail ∧ string (tail.length + 1) 0 tail = .ok (m.name, colon) ∧
      skipSpace colon = 0x3A :: left ∧ value fuel (skipSpace left) = .ok (m.value, behind) := by
  refine ⟨m.name ++ '"'.toNat :: ((": " : Text) ++ (m.text ++ behind)), (": " : Text) ++ (m.text ++ behind),
    32 :: (m.text ++ behind), ?_, string_plain _ h.name _, rfl, ?_⟩
  · simp only [Member.line, stringText, List.append_assoc]
    rfl
  · have hblank : skipSpace (32 :: (m.text ++ behind)) = m.text ++ behind := h.value.start behind
    rw [hblank]
    exact h.value.value behind hfuel

/-- The line of the last member. -/
theorem members_last (h : m.Readable need) (hfuel : need ≤ fuel) (hclosed : skipSpace behind = 0x7D :: rest) :
    members (fuel + 1) (m.line ++ behind) = .ok ([m.entry], rest) := by
  obtain ⟨tail, colon, left, hline, hname, hcolon, hvalue⟩ := line_of_readable h hfuel behind
  rw [hline, members, List.length_cons, hname]
  simp only [bind, Except.bind, hcolon, hvalue, hclosed]
  rfl

/-- The line of a member with more behind it. -/
theorem members_more (h : m.Readable need) (hfuel : need ≤ fuel) (hcomma : skipSpace behind = 0x2C :: more)
    (hmore : members fuel (skipSpace more) = .ok (es, rest)) :
    members (fuel + 1) (m.line ++ behind) = .ok (m.entry :: es, rest) := by
  obtain ⟨tail, colon, left, hline, hname, hcolon, hvalue⟩ := line_of_readable h hfuel behind
  rw [hline, members, List.length_cons, hname]
  simp only [bind, Except.bind, hcolon, hvalue, hcomma, hmore]
  rfl

end

section

variable {need fuel : Nat} {gap last : Text} {ms : List Member} (hgap : ∀ c ∈ gap, isSpace c = true)
  (hlast : ∀ c ∈ last, isSpace c = true) (hne : ms ≠ []) (h : ∀ m ∈ ms, m.Readable need)

/-- The lines of some members begin with a quote. -/
theorem exists_lines_eq (gap : Text) (hne : ms ≠ []) (rest : Text) :
    ∃ tail, Text.join ((",": Text) ++ gap) (ms.map Member.line) ++ rest = 0x22 :: tail := by
  cases ms with
  | nil => exact absurd rfl hne
  | cons m ms => cases ms <;> exact ⟨_, rfl⟩

theorem skipSpace_lines (gap : Text) (hne : ms ≠ []) (rest : Text) :
    skipSpace (Text.join ((",": Text) ++ gap) (ms.map Member.line) ++ rest) =
      Text.join ((",": Text) ++ gap) (ms.map Member.line) ++ rest := by
  obtain ⟨tail, htail⟩ := exists_lines_eq gap hne rest
  rw [htail]
  rfl

include hgap hlast hne h in
theorem members_lines (hfuel : need + ms.length ≤ fuel) (rest : Text) :
    members fuel (Text.join ((",": Text) ++ gap) (ms.map Member.line) ++ (last ++ 0x7D :: rest)) =
      .ok (ms.map Member.entry, rest) := by
  -- Each member takes one unit of fuel, and its value as much as any member needs.
  induction ms generalizing fuel with
  | nil => exact absurd rfl hne
  | cons m ms ih =>
      rw [List.length_cons] at hfuel
      obtain ⟨fuel, rfl⟩ : ∃ n, fuel = n + 1 := ⟨fuel - 1, by omega⟩
      have hm : m.Readable need := h m (by simp)
      cases ms with
      | nil =>
          have hclosed : skipSpace (last ++ 0x7D :: rest) = 0x7D :: rest := skipSpace_append hlast _
          exact members_last hm (by omega) hclosed
      | cons n ms =>
          have hfuel : need + (n :: ms).length ≤ fuel := by omega
          have hrest := ih (List.cons_ne_nil n ms) (fun k hk => h k (List.mem_cons_of_mem m hk)) hfuel
          have hjoin : Text.join ((",": Text) ++ gap) ((m :: n :: ms).map Member.line) ++ (last ++ 0x7D :: rest) =
              m.line ++ (0x2C :: (gap ++ (Text.join ((",": Text) ++ gap) ((n :: ms).map Member.line)
                ++ (last ++ 0x7D :: rest)))) := by
            rw [List.map_cons, List.map_cons, Text.join_cons_cons, ← List.map_cons]
            simp only [List.append_assoc]
            rfl
          rw [hjoin]
          refine members_more hm (by omega) rfl ?_
          rw [skipSpace_append hgap, skipSpace_lines gap (List.cons_ne_nil n ms)]
          exact hrest

include hgap hlast hne h in
/-- **A mapping in lines is read back**, if its members are. -/
theorem reads_mapping :
    Reads (need + ms.length + 1) (mappingText gap last ms) (.map (Value.ofEntries (ms.map Member.entry))) where
  start rest := rfl
  value {fuel} rest hfuel := by
    obtain ⟨fuel, rfl⟩ : ∃ n, fuel = n + 1 := ⟨fuel - 1, by omega⟩
    have hread := members_lines hgap hlast hne h (show need + ms.length ≤ fuel by omega) rest
    have hskip := skipSpace_lines gap hne (last ++ 0x7D :: rest)
    obtain ⟨tail, htail⟩ := exists_lines_eq gap hne (last ++ 0x7D :: rest)
    have htext : mappingText gap last ms ++ rest = '\x7b'.toNat :: (gap ++ 0x22 :: tail) := by
      rw [← htail]
      simp only [mappingText, List.append_assoc]
      rfl
    rw [htail] at hread hskip
    rw [htext, Reader.value]
    dsimp only
    rw [if_neg (by decide), if_pos rfl, skipSpace_append hgap, hskip]
    show (members fuel (0x22 :: tail)).map _ = _
    rw [hread]
    rfl

end

/-! ## Members -/

/-- A member whose name comes only once is found under its name. -/
theorem get?_foldl {front behind : List Member} {m : Member} (hlast : m.name ∉ behind.map Member.name)
    (done : List (Value × Value)) :
    Value.get? (.str m.name)
      (((front ++ m :: behind).map Member.entry).foldl (fun done e => Value.insert e.1 e.2 done) done) =
      some m.value := by
  rw [List.map_append, List.map_cons, List.foldl_append, List.foldl_cons]
  generalize (front.map Member.entry).foldl (fun done e => Value.insert e.1 e.2 done) done = made
  -- What comes behind the member stands under other names.
  suffices hkept : ∀ {es : List (Value × Value)}, Value.get? (.str m.name) es = some m.value →
      Value.get? (.str m.name)
        ((behind.map Member.entry).foldl (fun done e => Value.insert e.1 e.2 done) es) = some m.value from
    hkept (Value.get?_insert_self m.name m.value made)
  intro es hes
  induction behind generalizing es with
  | nil => exact hes
  | cons n behind ih =>
      rw [List.map_cons, List.mem_cons, not_or] at hlast
      rw [List.map_cons, List.foldl_cons]
      exact ih hlast.2 ((Value.get?_insert_ne (Ne.symm hlast.1) n.value es).trans hes)

/-- **The members of a mapping** with different names. -/
theorem member?_mapping {ms : List Member} (hnodup : (ms.map Member.name).Nodup) {m : Member} (hm : m ∈ ms) :
    (Value.map (Value.ofEntries (ms.map Member.entry))).member? m.name = some m.value := by
  obtain ⟨front, behind, rfl⟩ := List.append_of_mem hm
  rw [List.map_append, List.map_cons, List.nodup_append, List.nodup_cons] at hnodup
  exact get?_foldl hnodup.2.1.1 []

/-! ## Whole texts -/

/-- A text that is read as a value is read as this value, with white space behind it. -/
theorem read_of_reads {need : Nat} {t behind : Text} {v : Value} (h : Reads need t v) (hneed : need ≤ t.length)
    (hmark : (t ++ behind).head? ≠ some 0xFEFF) (hbehind : ∀ c ∈ behind, isSpace c = true) :
    read (t ++ behind) = .ok v := by
  have hfuel : need ≤ 2 * (t ++ behind).length + 2 := by
    rw [List.length_append]
    omega
  have hvalue := h.value behind hfuel
  have hwhole : readWhole (t ++ behind) = .ok v := by
    unfold readWhole
    split
    · rename_i rest heq
      rw [heq] at hmark
      exact absurd rfl hmark
    · rw [h.start, hvalue]
      have hend := skipSpace_append hbehind []
      rw [List.append_nil] at hend
      simp only [bind, Except.bind, hend]
      rfl
  rw [read, hwhole]

end StepForge.Json
