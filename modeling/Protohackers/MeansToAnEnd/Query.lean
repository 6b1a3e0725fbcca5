import Protohackers.MeansToAnEnd.Store

namespace MeansToAnEndProof

open MeansToAnEndModel

def IsI32 (value : Int) : Prop := -2 ^ 31 ≤ value ∧ value < 2 ^ 31

theorem i32FromBeBytes_range {bytes : List UInt8} (four : bytes.length = 4) :
    IsI32 (i32FromBeBytes bytes) := by
  match bytes, four with
  | [a, b, c, d], _ =>
    have ha : a.toNat < 256 := a.val.isLt
    have hb : b.toNat < 256 := b.val.isLt
    have hc : c.toNat < 256 := c.val.isLt
    have hd : d.toNat < 256 := d.val.isLt
    simp only [IsI32, i32FromBeBytes, List.foldl]
    split <;> constructor <;> omega

theorem parse_eq (chunk : Chunk) :
    parse chunk =
      if chunk.bytes.headD 0 = 73 then
        .ok (.insert (i32FromBeBytes ((chunk.bytes.drop 1).take 4)) (i32FromBeBytes (chunk.bytes.drop 5)))
      else if chunk.bytes.headD 0 = 81 then
        .ok (.query (i32FromBeBytes ((chunk.bytes.drop 1).take 4)) (i32FromBeBytes (chunk.bytes.drop 5)))
      else .error .messageInvalid := by
  obtain ⟨bytes, nine⟩ := chunk
  have first : ((bytes.drop 1).take 4).length = 4 := by simp [nine]
  have second : (bytes.drop 5).length = 4 := by simp [nine]
  unfold parse
  rw [fourBytes, if_pos first, fourBytes, if_pos second]
  rfl

theorem parse_cases (chunk : Chunk) :
    parse chunk = .error .messageInvalid ∨
      (∃ timestamp price, IsI32 timestamp ∧ IsI32 price ∧ parse chunk = .ok (.insert timestamp price)) ∨
      ∃ mintime maxtime, parse chunk = .ok (.query mintime maxtime) := by
  have first : ((chunk.bytes.drop 1).take 4).length = 4 := by simp [chunk.length_eq]
  have second : (chunk.bytes.drop 5).length = 4 := by simp [chunk.length_eq]
  rw [parse_eq]
  split_ifs
  · exact .inr (.inl ⟨_, _, i32FromBeBytes_range first, i32FromBeBytes_range second, rfl⟩)
  · exact .inr (.inr ⟨_, _, rfl⟩)
  · exact .inl rfl

def FitsI64 (value : Int) : Prop := -2 ^ 63 ≤ value ∧ value < 2 ^ 63

theorem wrappingAdd_exact {a b : Int} (fits : FitsI64 (a + b)) : wrappingAdd a b = a + b := by
  unfold wrappingAdd Int.bmod
  push_cast
  split <;> (unfold FitsI64 at fits; omega)

theorem sum_bounds {window : List (Int × Int)} (prices : ∀ entry ∈ window, IsI32 entry.2) :
    -2 ^ 31 * (window.length : Int) ≤ (window.map Prod.snd).sum ∧
      (window.map Prod.snd).sum ≤ (2 ^ 31 - 1) * window.length := by
  induction window with
  | nil => simp
  | cons head rest ih =>
    have price := prices head (List.mem_cons_self _ _)
    have restBounds := ih fun entry member => prices entry (List.mem_cons_of_mem _ member)
    unfold IsI32 at price
    simp only [List.map_cons, List.sum_cons, List.length_cons, Nat.cast_add, Nat.cast_one]
    constructor <;> omega

theorem sum_eq_min_prices {window : List (Int × Int)} (prices : ∀ entry ∈ window, IsI32 entry.2)
    (extreme : (window.map Prod.snd).sum = -2 ^ 31 * window.length) :
    ∀ entry ∈ window, entry.2 = -2 ^ 31 := by
  induction window with
  | nil => exact fun _ member => nomatch member
  | cons head rest ih =>
    have price := prices head (List.mem_cons_self _ _)
    have restPrices := fun entry member => prices entry (List.mem_cons_of_mem head member)
    have restBounds := (sum_bounds restPrices).1
    unfold IsI32 at price
    simp only [List.map_cons, List.sum_cons, List.length_cons, Nat.cast_add, Nat.cast_one] at extreme
    intro entry member
    rcases List.mem_cons.mp member with rfl | later
    · omega
    · exact ih restPrices (by omega) entry later

theorem accumulate_exact : ∀ (window : List (Int × Int)) (count sum : Int),
    (∀ entry ∈ window, IsI32 entry.2) → 0 ≤ count → count + window.length ≤ 2 ^ 32 →
    -2 ^ 31 * count ≤ sum → sum ≤ (2 ^ 31 - 1) * count →
    accumulate window count sum = (count + window.length, sum + (window.map Prod.snd).sum)
  | [], count, sum, _, _, _, _, _ => by simp [accumulate]
  | (key, price) :: rest, count, sum, prices, nonneg, room, lower, upper => by
    have inRange := prices (key, price) (List.mem_cons_self _ _)
    unfold IsI32 at inRange
    simp only [List.length_cons, Nat.cast_add, Nat.cast_one] at room
    rw [accumulate, wrappingAdd_exact (by unfold FitsI64; omega), wrappingAdd_exact (by unfold FitsI64; omega),
      accumulate_exact rest (count + 1) (sum + price)
        (fun entry member => prices entry (List.mem_cons_of_mem _ member)) (by omega) (by omega)
        (by omega) (by omega)]
    simp only [List.length_cons, Nat.cast_add, Nat.cast_one, List.map_cons, List.sum_cons]
    exact Prod.ext (by omega) (by omega)

theorem tdiv_range {sum count : Int} (positive : 0 < count) (lower : -2 ^ 31 * count ≤ sum)
    (upper : sum ≤ (2 ^ 31 - 1) * count) : IsI32 (sum.tdiv count) := by
  rcases le_or_lt 0 sum with nonneg | negative
  · rw [Int.tdiv_eq_ediv nonneg positive.le]
    have below := Int.ediv_mul_le sum positive.ne'
    have bound : sum / count ≤ 2 ^ 31 - 1 := Int.le_of_mul_le_mul_right (below.trans (by omega)) positive
    have above := Int.ediv_nonneg nonneg positive.le
    unfold IsI32
    omega
  · have flipped : sum.tdiv count = -((-sum) / count) := by
      rw [← Int.tdiv_eq_ediv (by omega) positive.le, Int.neg_tdiv, neg_neg]
    have below := Int.ediv_mul_le (-sum) positive.ne'
    have bound : (-sum) / count ≤ 2 ^ 31 := Int.le_of_mul_le_mul_right (below.trans (by omega)) positive
    have above := Int.ediv_nonneg (by omega : 0 ≤ -sum) positive.le
    rw [flipped]
    unfold IsI32
    omega

theorem mean_range {count sum : Int} (lower : -2 ^ 31 * count ≤ sum) (upper : sum ≤ (2 ^ 31 - 1) * count) :
    IsI32 (mean count sum) := by
  unfold mean
  split
  · exact tdiv_range ‹_› lower upper
  · unfold IsI32
    omega

theorem i32TryFrom_of_range {value : Int} (inRange : IsI32 value) : i32TryFrom value = .ok value :=
  if_pos inRange

def InsertsInRange (history : List Message) : Prop :=
  ∀ timestamp price, Message.insert timestamp price ∈ history → IsI32 timestamp ∧ IsI32 price

theorem InsertsInRange.insert {history : List Message} (inRange : InsertsInRange history)
    {timestamp price : Int} (timestampRange : IsI32 timestamp) (priceRange : IsI32 price) :
    InsertsInRange (history ++ [.insert timestamp price]) := by
  intro key value member
  rcases List.mem_append.mp member with older | newest
  · exact inRange key value older
  · simp only [List.mem_singleton, Message.insert.injEq] at newest
    exact newest.1 ▸ newest.2 ▸ ⟨timestampRange, priceRange⟩

theorem InsertsInRange.query {history : List Message} (inRange : InsertsInRange history)
    (mintime maxtime : Int) : InsertsInRange (history ++ [.query mintime maxtime]) := by
  intro key value member
  rcases List.mem_append.mp member with older | newest
  · exact inRange key value older
  · simp at newest

theorem storeOf_entries_in_range {history : List Message} (inRange : InsertsInRange history) :
    ∀ entry ∈ (storeOf history).entries, IsI32 entry.1 ∧ IsI32 entry.2 := by
  suffices general : ∀ items : Items, (∀ entry ∈ items.entries, IsI32 entry.1 ∧ IsI32 entry.2) →
      ∀ entry ∈ (history.foldl applyMessage items).entries, IsI32 entry.1 ∧ IsI32 entry.2 from
    general Items.new fun _ member => nomatch member
  induction history with
  | nil => exact fun _ bounded => bounded
  | cons message rest ih =>
    intro items bounded
    refine ih (fun timestamp price member => inRange timestamp price (List.mem_cons_of_mem _ member)) _ ?_
    cases message with
    | insert key price =>
      intro entry member
      rcases mem_insertEntry member with rfl | older
      · exact inRange key price (List.mem_cons_self _ _)
      · exact bounded entry older
    | query _ _ => exact bounded

theorem window_in_range {history : List Message} (inRange : InsertsInRange history) (mintime maxtime : Int) :
    ∀ entry ∈ (storeOf history).range mintime maxtime, IsI32 entry.1 ∧ IsI32 entry.2 :=
  fun entry member => storeOf_entries_in_range inRange entry (List.mem_of_mem_filter member)

theorem window_length_le {history : List Message} (inRange : InsertsInRange history) (mintime maxtime : Int) :
    (((storeOf history).range mintime maxtime).length : Int) ≤ 2 ^ 32 := by
  have bound := length_le_of_sorted (range_sorted _ mintime maxtime) (by omega : (-2 ^ 31 : Int) ≤ 2 ^ 31)
    fun entry member => (window_in_range inRange mintime maxtime entry member).1
  omega

/-- Modelled from the spec: the mean, truncated toward zero, of the latest price inserted for each
    timestamp in `[mintime, maxtime]`, and 0 when there is none. -/
def specMean (history : List Message) (mintime maxtime : Int) : Int :=
  let window := (storedTimestamps history).filter fun timestamp => mintime ≤ timestamp ∧ timestamp ≤ maxtime
  if window.card = 0 then 0
  else (∑ timestamp ∈ window, (storedPrice history timestamp).getD 0).tdiv window.card

theorem specMean_eq (history : List Message) (mintime maxtime : Int) :
    specMean history mintime maxtime =
      mean ((storeOf history).range mintime maxtime).length
        (((storeOf history).range mintime maxtime).map Prod.snd).sum := by
  simp only [specMean, mean, ← keys_storeOf, ← range_keys, range_length, range_sum, lookup_storeOf]
  split_ifs <;> first | rfl | omega

theorem query_answer {history : List Message} (inRange : InsertsInRange history) (mintime maxtime : Int) :
    i32TryFrom (mean (accumulate ((storeOf history).range mintime maxtime) 0 0).1
      (accumulate ((storeOf history).range mintime maxtime) 0 0).2) = .ok (specMean history mintime maxtime) := by
  have prices := fun entry member => (window_in_range inRange mintime maxtime entry member).2
  have short := window_length_le inRange mintime maxtime
  have bounds := sum_bounds prices
  rw [accumulate_exact _ 0 0 prices le_rfl (by omega) (by omega) (by omega), specMean_eq, zero_add, zero_add]
  exact i32TryFrom_of_range (mean_range bounds.1 bounds.2)

def parsedMessages : List Chunk → List Message
  | [] => []
  | chunk :: rest =>
    match parse chunk with
    | .ok message => message :: parsedMessages rest
    | .error _ => []

/-- Modelled from the spec: one answer per query, the mean over what was inserted before it, and 0
    for a query whose range is empty. -/
def specAnswers (history : List Message) : List Message → List Int
  | [] => []
  | .insert timestamp price :: rest => specAnswers (history ++ [.insert timestamp price]) rest
  | .query mintime maxtime :: rest =>
    (if mintime ≤ maxtime then specMean history mintime maxtime else 0) ::
      specAnswers (history ++ [.query mintime maxtime]) rest

theorem parsedMessages_in_range (chunks : List Chunk) : InsertsInRange (parsedMessages chunks) := by
  induction chunks with
  | nil => exact fun _ _ member => nomatch member
  | cons chunk rest ih =>
    intro timestamp price member
    rcases parse_cases chunk with invalid | ⟨key, value, keyRange, valueRange, parsed⟩ | ⟨_, _, parsed⟩
    · simp [parsedMessages, invalid] at member
    · simp only [parsedMessages, parsed, List.mem_cons, Message.insert.injEq] at member
      rcases member with ⟨rfl, rfl⟩ | older
      · exact ⟨keyRange, valueRange⟩
      · exact ih timestamp price older
    · simp only [parsedMessages, parsed, List.mem_cons, reduceCtorEq, false_or] at member
      exact ih timestamp price member

theorem runLoop_answers (chunks : List Chunk) : ∀ history : List Message, InsertsInRange history →
    (runLoop (storeOf history) chunks).1 = specAnswers history (parsedMessages chunks) ∧
      (runLoop (storeOf history) chunks).2 ≠ .error .mean := by
  induction chunks with
  | nil => intro history _; simp [runLoop, parsedMessages, specAnswers]
  | cons chunk rest ih =>
    intro history inRange
    rcases parse_cases chunk with invalid | ⟨timestamp, price, timestampRange, priceRange, parsed⟩ |
      ⟨mintime, maxtime, parsed⟩
    · simp [runLoop, parsedMessages, specAnswers, invalid]
    · have next := ih _ (inRange.insert timestampRange priceRange)
      rw [storeOf_append] at next
      simpa only [runLoop, parsedMessages, parsed, specAnswers] using next
    · have next := ih _ (inRange.query mintime maxtime)
      rw [storeOf_append] at next
      simp only [runLoop, parsedMessages, parsed, specAnswers]
      split_ifs
      · rw [query_answer inRange]
        exact ⟨congrArg _ next.1, next.2⟩
      · exact ⟨congrArg _ next.1, next.2⟩

def runningSum (items : Items) (mintime maxtime : Int) (count : Nat) : Int :=
  (((items.range mintime maxtime).take count).map Prod.snd).sum

theorem runningSum_range {history : List Message} (inRange : InsertsInRange history) (mintime maxtime : Int)
    (count : Nat) :
    FitsI64 (runningSum (storeOf history) mintime maxtime count) ∧
      (runningSum (storeOf history) mintime maxtime count = -2 ^ 63 →
        (((storeOf history).range mintime maxtime).take count).length = 2 ^ 32 ∧
          ∀ entry ∈ ((storeOf history).range mintime maxtime).take count, entry.2 = -2 ^ 31) := by
  have short := window_length_le inRange mintime maxtime
  have shorter : ((((storeOf history).range mintime maxtime).take count).length : Int) ≤ 2 ^ 32 := by
    have := List.length_take_le' count ((storeOf history).range mintime maxtime)
    omega
  have prices := fun entry (member : entry ∈ ((storeOf history).range mintime maxtime).take count) =>
    (window_in_range inRange mintime maxtime entry (List.mem_of_mem_take member)).2
  have bounds := sum_bounds prices
  unfold runningSum FitsI64
  refine ⟨by omega, fun extreme => ?_⟩
  have full : (((storeOf history).range mintime maxtime).take count).length = 2 ^ 32 := by omega
  exact ⟨full, sum_eq_min_prices prices (by omega)⟩

theorem query_answers_exact_mean (chunks : List Chunk) :
    (run chunks).1 = specAnswers [] (parsedMessages chunks) ∧ (run chunks).2 ≠ .error .mean ∧
      ∀ history, history <+: parsedMessages chunks → ∀ (mintime maxtime : Int) (count : Nat),
        FitsI64 (runningSum (storeOf history) mintime maxtime count) ∧
          (runningSum (storeOf history) mintime maxtime count = -2 ^ 63 →
            (((storeOf history).range mintime maxtime).take count).length = 2 ^ 32 ∧
              ∀ entry ∈ ((storeOf history).range mintime maxtime).take count, entry.2 = -2 ^ 31) := by
  have started := runLoop_answers chunks [] fun _ _ member => nomatch member
  refine ⟨started.1, started.2, fun history before => runningSum_range ?_⟩
  exact fun timestamp price member => parsedMessages_in_range chunks timestamp price (before.subset member)

example :
    (run [⟨[73, 0, 0, 48, 57, 0, 0, 0, 101], rfl⟩, ⟨[73, 0, 0, 48, 58, 0, 0, 0, 102], rfl⟩,
      ⟨[73, 0, 0, 48, 59, 0, 0, 0, 100], rfl⟩, ⟨[73, 0, 0, 160, 0, 0, 0, 0, 5], rfl⟩,
      ⟨[81, 0, 0, 48, 0, 0, 0, 64, 0], rfl⟩]).1 = [101] := by
  decide

def knownTag (chunk : Chunk) : Bool := chunk.bytes.headD 0 = 73 || chunk.bytes.headD 0 = 81

theorem knownTag_iff (chunk : Chunk) : knownTag chunk = true ↔ ∃ message, parse chunk = .ok message := by
  rw [parse_eq, knownTag, Bool.or_eq_true, decide_eq_true_eq, decide_eq_true_eq]
  split_ifs with insert query
  · exact ⟨fun _ => ⟨_, rfl⟩, fun _ => .inl insert⟩
  · exact ⟨fun _ => ⟨_, rfl⟩, fun _ => .inr query⟩
  · exact ⟨fun known => (known.elim insert query).elim, fun ⟨_, parsed⟩ => nomatch parsed⟩

theorem runLoop_reads_to_first_invalid (chunks : List Chunk) : ∀ history : List Message, InsertsInRange history →
    runLoop (storeOf history) chunks = ((runLoop (storeOf history) (chunks.takeWhile knownTag)).1,
      if chunks.all knownTag then .ok () else .error .messageInvalid) := by
  induction chunks with
  | nil => intro _ _; simp [runLoop]
  | cons chunk rest ih =>
    intro history inRange
    rcases parse_cases chunk with invalid | ⟨timestamp, price, timestampRange, priceRange, parsed⟩ |
      ⟨mintime, maxtime, parsed⟩
    · have unknown : knownTag chunk = false := by
        rw [Bool.eq_false_iff, ne_eq, knownTag_iff, invalid]
        exact fun ⟨_, parsed⟩ => nomatch parsed
      simp [runLoop, invalid, List.takeWhile_cons, unknown]
    · have known := (knownTag_iff chunk).mpr ⟨_, parsed⟩
      have next := ih _ (inRange.insert timestampRange priceRange)
      rw [storeOf_append] at next
      simpa only [runLoop, parsed, applyMessage, List.takeWhile_cons_of_pos known, List.all_cons, known,
        Bool.true_and] using next
    · have known := (knownTag_iff chunk).mpr ⟨_, parsed⟩
      have next := ih _ (inRange.query mintime maxtime)
      rw [storeOf_append] at next
      simp only [applyMessage] at next
      simp only [runLoop, parsed, List.takeWhile_cons_of_pos known, List.all_cons, known, Bool.true_and]
      by_cases ordered : maxtime ≥ mintime <;> simp only [ordered, ↓reduceIte, query_answer inRange] <;> rw [next]

/-- How a session ends: `run` reads chunks up to the first whose tag is neither `I` nor `Q`,
    answers exactly the queries before it, and ends there with `MessageInvalid`; a stream of `I`
    and `Q` chunks is read to its end and `run` returns `Ok`. It never ends with `Slice` or
    `Mean`. -/
theorem run_reads_to_first_invalid (chunks : List Chunk) :
    run chunks = ((run (chunks.takeWhile knownTag)).1,
      if chunks.all knownTag then .ok () else .error .messageInvalid) :=
  runLoop_reads_to_first_invalid chunks [] fun _ _ member => nomatch member

example :
    run [⟨[73, 0, 0, 48, 57, 0, 0, 0, 101], rfl⟩, ⟨[88, 0, 0, 0, 0, 0, 0, 0, 0], rfl⟩,
      ⟨[81, 0, 0, 0, 0, 0, 0, 64, 0], rfl⟩] = ([], .error .messageInvalid) := by
  rfl

end MeansToAnEndProof
