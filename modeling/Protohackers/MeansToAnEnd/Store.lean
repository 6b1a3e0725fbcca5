import Protohackers.MeansToAnEnd.Model

namespace MeansToAnEndProof

open MeansToAnEndModel

def lookup (entries : List (Int × Int)) (key : Int) : Option Int :=
  (entries.find? fun entry => entry.1 = key).map Prod.snd

theorem lookup_cons (k v key : Int) (rest : List (Int × Int)) :
    lookup ((k, v) :: rest) key = if k = key then some v else lookup rest key := by
  by_cases same : k = key <;> simp [lookup, same]

theorem lookup_insertEntry_self (key value : Int) (entries : List (Int × Int)) :
    lookup (insertEntry key value entries) key = some value := by
  induction entries with
  | nil => rw [insertEntry, lookup_cons, if_pos rfl]
  | cons head rest ih =>
    obtain ⟨k, v⟩ := head
    simp only [insertEntry]
    by_cases before : key < k
    · rw [if_pos before, lookup_cons, if_pos rfl]
    · by_cases same : key = k
      · rw [if_neg before, if_pos same, lookup_cons, if_pos rfl]
      · rw [if_neg before, if_neg same, lookup_cons, if_neg (Ne.symm same), ih]

theorem lookup_insertEntry_ne {key target : Int} (value : Int) (apart : key ≠ target)
    (entries : List (Int × Int)) :
    lookup (insertEntry key value entries) target = lookup entries target := by
  induction entries with
  | nil => rw [insertEntry, lookup_cons, if_neg apart]
  | cons head rest ih =>
    obtain ⟨k, v⟩ := head
    simp only [insertEntry]
    by_cases before : key < k
    · rw [if_pos before, lookup_cons, if_neg apart]
    · by_cases same : key = k
      · subst same
        rw [if_neg before, if_pos rfl, lookup_cons, lookup_cons, if_neg apart, if_neg apart]
      · rw [if_neg before, if_neg same, lookup_cons, lookup_cons, ih]

theorem keys_insertEntry (key value : Int) (entries : List (Int × Int)) :
    ((insertEntry key value entries).map Prod.fst).toFinset =
      insert key (entries.map Prod.fst).toFinset := by
  induction entries with
  | nil => rfl
  | cons head rest ih =>
    obtain ⟨k, v⟩ := head
    simp only [insertEntry]
    by_cases before : key < k
    · rw [if_pos before, List.map_cons, List.toFinset_cons]
    · rw [if_neg before]
      by_cases same : key = k
      · subst same
        simp only [if_true, List.map_cons, List.toFinset_cons, Finset.insert_idem]
      · simp only [if_neg same, List.map_cons, List.toFinset_cons, ih]
        exact Finset.Insert.comm k key _

theorem lookup_of_mem {entries : List (Int × Int)}
    (sorted : entries.Pairwise fun a b => a.1 < b.1) {entry : Int × Int} (member : entry ∈ entries) :
    lookup entries entry.1 = some entry.2 := by
  induction entries with
  | nil => cases member
  | cons head rest ih =>
    obtain ⟨k, v⟩ := head
    obtain ⟨above, sortedRest⟩ := List.pairwise_cons.mp sorted
    rcases List.mem_cons.mp member with rfl | later
    · rw [lookup_cons, if_pos rfl]
    · rw [lookup_cons, if_neg (Int.ne_of_lt (above entry later)), ih sortedRest later]

theorem length_le_of_sorted {entries : List (Int × Int)} (sorted : entries.Pairwise fun a b => a.1 < b.1)
    {low high : Int} (ordered : low ≤ high) (bounded : ∀ entry ∈ entries, low ≤ entry.1 ∧ entry.1 < high) :
    (entries.length : Int) ≤ high - low := by
  induction entries generalizing low with
  | nil => simpa using ordered
  | cons head rest ih =>
    obtain ⟨above, sortedRest⟩ := List.pairwise_cons.mp sorted
    have headBound := bounded head (List.mem_cons_self _ _)
    have restLength := ih sortedRest (by omega)
      (fun entry member => ⟨above entry member, (bounded entry (List.mem_cons_of_mem _ member)).2⟩)
    simp only [List.length_cons, Nat.cast_add, Nat.cast_one]
    omega

theorem keys_nodup {entries : List (Int × Int)} (sorted : entries.Pairwise fun a b => a.1 < b.1) :
    (entries.map Prod.fst).Nodup :=
  (List.pairwise_map.mpr sorted).imp Int.ne_of_lt

theorem range_sorted (items : Items) (mintime maxtime : Int) :
    (items.range mintime maxtime).Pairwise fun a b => a.1 < b.1 :=
  items.sorted.sublist (List.filter_sublist _)

theorem range_keys (items : Items) (mintime maxtime : Int) :
    ((items.range mintime maxtime).map Prod.fst).toFinset =
      (items.entries.map Prod.fst).toFinset.filter
        fun timestamp => mintime ≤ timestamp ∧ timestamp ≤ maxtime := by
  ext timestamp
  simp only [Items.range, List.mem_toFinset, List.mem_map, List.mem_filter, Finset.mem_filter,
    decide_eq_true_eq]
  constructor
  · rintro ⟨entry, ⟨member, inside⟩, rfl⟩
    exact ⟨⟨entry, member, rfl⟩, inside⟩
  · rintro ⟨⟨entry, member, rfl⟩, inside⟩
    exact ⟨entry, ⟨member, inside⟩, rfl⟩

theorem range_sum (items : Items) (mintime maxtime : Int) :
    ((items.range mintime maxtime).map Prod.snd).sum =
      ∑ timestamp ∈ ((items.range mintime maxtime).map Prod.fst).toFinset,
        (lookup items.entries timestamp).getD 0 := by
  rw [List.sum_toFinset _ (keys_nodup (range_sorted items mintime maxtime)), List.map_map]
  congr 1
  refine List.map_congr_left fun entry member => ?_
  simp [lookup_of_mem items.sorted (List.mem_of_mem_filter member)]

theorem range_length (items : Items) (mintime maxtime : Int) :
    (items.range mintime maxtime).length =
      (((items.range mintime maxtime).map Prod.fst).toFinset).card := by
  rw [List.toFinset_card_of_nodup (keys_nodup (range_sorted items mintime maxtime)), List.length_map]

def applyMessage (items : Items) : Message → Items
  | .insert timestamp price => items.insert timestamp price
  | .query _ _ => items

def storeOf (history : List Message) : Items := history.foldl applyMessage Items.new

def latestPrice (timestamp : Int) (stored : Option Int) : Message → Option Int
  | .insert key price => if key = timestamp then some price else stored
  | .query _ _ => stored

/-- Modelled from the spec: the price of the latest insert for `timestamp`. -/
def storedPrice (history : List Message) (timestamp : Int) : Option Int :=
  history.foldl (latestPrice timestamp) none

def insertedTimestamp : Message → Option Int
  | .insert timestamp _ => some timestamp
  | .query _ _ => none

/-- Modelled from the spec: the timestamps some insert has given a price. -/
def storedTimestamps (history : List Message) : Finset Int :=
  (history.filterMap insertedTimestamp).toFinset

theorem lookup_storeOf (history : List Message) (timestamp : Int) :
    lookup (storeOf history).entries timestamp = storedPrice history timestamp := by
  suffices general : ∀ items : Items, lookup (history.foldl applyMessage items).entries timestamp =
      history.foldl (latestPrice timestamp) (lookup items.entries timestamp) from general Items.new
  induction history with
  | nil => exact fun items => rfl
  | cons message rest ih =>
    intro items
    rw [List.foldl_cons, List.foldl_cons, ih]
    congr 1
    cases message with
    | insert key price =>
      by_cases same : key = timestamp
      · subst same
        simp [applyMessage, latestPrice, Items.insert, lookup_insertEntry_self]
      · simp [applyMessage, latestPrice, Items.insert, lookup_insertEntry_ne price same, same]
    | query _ _ => rfl

theorem keys_storeOf (history : List Message) :
    ((storeOf history).entries.map Prod.fst).toFinset = storedTimestamps history := by
  suffices general : ∀ items : Items, ((history.foldl applyMessage items).entries.map Prod.fst).toFinset =
      (items.entries.map Prod.fst).toFinset ∪ storedTimestamps history by
    simpa [Items.new] using general Items.new
  induction history with
  | nil => simp [storedTimestamps]
  | cons message rest ih =>
    intro items
    rw [List.foldl_cons, ih]
    cases message with
    | insert key price =>
      simp only [applyMessage, Items.insert, keys_insertEntry, storedTimestamps, insertedTimestamp,
        List.filterMap_cons, List.toFinset_cons, Finset.insert_union, Finset.union_insert]
    | query _ _ => simp only [applyMessage, storedTimestamps, insertedTimestamp, List.filterMap_cons]

theorem storeOf_append (history : List Message) (message : Message) :
    storeOf (history ++ [message]) = applyMessage (storeOf history) message := by
  simp [storeOf]

end MeansToAnEndProof
