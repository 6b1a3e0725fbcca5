import Mathlib

namespace MeansToAnEndModel

inductive Message where
  | insert (timestamp price : Int)
  | query (mintime maxtime : Int)
deriving DecidableEq, Repr

inductive Error where
  | messageInvalid
  | slice
  | mean
deriving DecidableEq, Repr

structure Chunk where
  bytes : List UInt8
  length_eq : bytes.length = 9

def i32FromBeBytes (bytes : List UInt8) : Int :=
  let unsigned := bytes.foldl (fun (acc : Nat) byte => acc * 256 + byte.toNat) 0
  if unsigned < 2 ^ 31 then (unsigned : Int) else (unsigned : Int) - 2 ^ 32

def fourBytes (slice : List UInt8) : Except Error (List UInt8) :=
  if slice.length = 4 then .ok slice else .error .slice

def parse (chunk : Chunk) : Except Error Message := do
  let first ← fourBytes ((chunk.bytes.drop 1).take 4)
  let second ← fourBytes (chunk.bytes.drop 5)
  let tag := chunk.bytes.headD 0
  if tag = 73 then .ok (.insert (i32FromBeBytes first) (i32FromBeBytes second))
  else if tag = 81 then .ok (.query (i32FromBeBytes first) (i32FromBeBytes second))
  else .error .messageInvalid

def insertEntry (key value : Int) : List (Int × Int) → List (Int × Int)
  | [] => [(key, value)]
  | (k, v) :: rest =>
    if key < k then (key, value) :: (k, v) :: rest
    else if key = k then (key, value) :: rest
    else (k, v) :: insertEntry key value rest

theorem mem_insertEntry {key value : Int} {entries : List (Int × Int)} {entry : Int × Int}
    (member : entry ∈ insertEntry key value entries) : entry = (key, value) ∨ entry ∈ entries := by
  induction entries with
  | nil => simpa [insertEntry] using member
  | cons head rest ih =>
    obtain ⟨k, v⟩ := head
    simp only [insertEntry] at member
    split_ifs at member
    · exact List.mem_cons.mp member
    · rcases List.mem_cons.mp member with same | other
      · exact .inl same
      · exact .inr (List.mem_cons_of_mem _ other)
    · rcases List.mem_cons.mp member with same | other
      · exact .inr (same ▸ List.mem_cons_self _ _)
      · rcases ih other with same | older
        · exact .inl same
        · exact .inr (List.mem_cons_of_mem _ older)

theorem insertEntry_sorted (key value : Int) {entries : List (Int × Int)}
    (sorted : entries.Pairwise fun a b => a.1 < b.1) :
    (insertEntry key value entries).Pairwise fun a b => a.1 < b.1 := by
  induction entries with
  | nil => simp [insertEntry]
  | cons head rest ih =>
    obtain ⟨k, v⟩ := head
    obtain ⟨above, sortedRest⟩ := List.pairwise_cons.mp sorted
    simp only [insertEntry]
    split_ifs with before same
    · refine List.pairwise_cons.mpr ⟨?_, sorted⟩
      intro entry member
      rcases List.mem_cons.mp member with rfl | later
      · exact before
      · exact Int.lt_trans before (above entry later)
    · subst same
      exact List.pairwise_cons.mpr ⟨above, sortedRest⟩
    · refine List.pairwise_cons.mpr ⟨fun entry member => ?_, ih sortedRest⟩
      rcases mem_insertEntry member with rfl | older
      · show k < key
        omega
      · exact above entry older

structure Items where
  entries : List (Int × Int)
  sorted : entries.Pairwise fun a b => a.1 < b.1

def Items.new : Items := ⟨[], .nil⟩

def Items.insert (items : Items) (key value : Int) : Items :=
  ⟨insertEntry key value items.entries, insertEntry_sorted key value items.sorted⟩

def Items.range (items : Items) (mintime maxtime : Int) : List (Int × Int) :=
  items.entries.filter fun entry => mintime ≤ entry.1 ∧ entry.1 ≤ maxtime

def wrappingAdd (a b : Int) : Int := (a + b).bmod (2 ^ 64)

def accumulate : List (Int × Int) → Int → Int → Int × Int
  | [], count, sum => (count, sum)
  | (_, value) :: rest, count, sum => accumulate rest (wrappingAdd count 1) (wrappingAdd sum value)

def mean (count sum : Int) : Int := if count > 0 then sum.tdiv count else 0

def i32TryFrom (value : Int) : Except Error Int :=
  if -2 ^ 31 ≤ value ∧ value < 2 ^ 31 then .ok value else .error .mean

def runLoop (items : Items) : List Chunk → List Int × Except Error Unit
  | [] => ([], .ok ())
  | chunk :: rest =>
    match parse chunk with
    | .error err => ([], .error err)
    | .ok (.insert timestamp price) => runLoop (items.insert timestamp price) rest
    | .ok (.query mintime maxtime) =>
      if maxtime ≥ mintime then
        let counted := accumulate (items.range mintime maxtime) 0 0
        match i32TryFrom (mean counted.1 counted.2) with
        | .ok answer => (answer :: (runLoop items rest).1, (runLoop items rest).2)
        | .error err => ([], .error err)
      else (0 :: (runLoop items rest).1, (runLoop items rest).2)

def run (chunks : List Chunk) : List Int × Except Error Unit := runLoop Items.new chunks

end MeansToAnEndModel
