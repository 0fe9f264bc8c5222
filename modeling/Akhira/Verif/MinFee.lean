import Akhira.App.Ante
import Akhira.Verif.SymbolRoundTrip

/-!
# What fee a transaction pays

The loop over the messages computes the largest minimum, so their order does not matter. The loop
over the coins takes the last one that is aku up to letter case; coins are sorted with the capital
letters first, so it is aku itself where the fee has any.
-/
namespace Akhira.Verif.Ante

open Akhira.Base Akhira.Sdk Akhira.TokenRegistry Akhira.Ante

section Messages

/-- The minimum of one message. -/
def minimum (typeURL : String) : Nat :=
  if isCostly typeURL then highFee
  else if contains typeURL.toLower "transfer" then lowFee
  else 0

/-- The largest minimum. -/
def required (msgs : List String) : Nat := (msgs.map minimum).foldr max 0

/-- No message asks for more than the high fee. -/
theorem minimum_le (typeURL : String) : minimum typeURL ≤ highFee := by
  unfold minimum
  split_ifs <;> decide

/-- One round raises the minimum to that of the message. -/
theorem raiseMinFee_eq {minFee : Nat} (bounded : minFee ≤ highFee) (typeURL : String) :
    raiseMinFee minFee typeURL = max minFee (minimum typeURL) := by
  unfold raiseMinFee minimum
  by_cases costly : isCostly typeURL = true
  · rw [if_pos costly, if_pos costly, max_eq_right bounded]
  · rw [if_neg costly, if_neg costly]
    by_cases transfer : contains typeURL.toLower "transfer" = true
    · rw [if_pos transfer]
      by_cases low : minFee ≤ lowFee
      · rw [if_pos ⟨transfer, low⟩, max_eq_right low]
      · rw [if_neg fun both => low both.2, max_eq_left (not_le.mp low).le]
    · rw [if_neg fun both => transfer both.1, if_neg transfer, Nat.max_zero]

/-- The loop raises the fee to what the messages require. -/
theorem foldl_raiseMinFee {minFee : Nat} (bounded : minFee ≤ highFee) (msgs : List String) :
    msgs.foldl raiseMinFee minFee = max minFee (required msgs) := by
  induction msgs generalizing minFee with
  | nil => exact (Nat.max_zero minFee).symm
  | cons typeURL msgs ih =>
    rw [List.foldl_cons, raiseMinFee_eq bounded, ih (max_le bounded (minimum_le typeURL)), max_assoc]
    rfl

/-- From nothing the loop gives what the messages require. -/
theorem foldl_raiseMinFee_zero (msgs : List String) :
    msgs.foldl raiseMinFee 0 = required msgs := by
  rw [foldl_raiseMinFee (Nat.zero_le _), Nat.zero_max]

/-- A fee is enough for the messages when it is for each of them. -/
theorem required_le_iff {msgs : List String} {fee : Nat} :
    required msgs ≤ fee ↔ ∀ typeURL ∈ msgs, minimum typeURL ≤ fee := by
  induction msgs with
  | nil => simp [required]
  | cons typeURL msgs ih =>
    rw [List.forall_mem_cons, ← ih]
    exact max_le_iff

/-- What is required does not depend on the order of the messages. -/
theorem required_perm {left right : List String} (permuted : left.Perm right) :
    required left = required right :=
  eq_of_forall_ge_iff fun fee => by
    rw [required_le_iff, required_le_iff]
    exact forall_congr' fun typeURL => imp_congr_left permuted.mem_iff

/-- Being one distribution does not depend on the order of the messages. -/
theorem singleDistribution_perm {left right : List String} (permuted : left.Perm right) :
    singleDistribution left = singleDistribution right := by
  match right with
  | [] => rw [permuted.eq_nil]
  | [typeURL] => rw [List.perm_singleton.mp permuted]
  | first :: second :: rest =>
    have length := permuted.length_eq
    match left with
    | [] => rfl
    | [typeURL] => simp at length
    | _ :: _ :: _ => rfl

end Messages

section Fees

/-- The loop ends with the last coin that is aku up to letter case. -/
theorem foldl_pickFee (fees : Coins) :
    (fees.foldl pickFee 0 = 0 ∧ ∀ coin ∈ fees, equalFold "aku" coin.denom = false) ∨
      ∃ before coin after, fees = before ++ coin :: after ∧
        equalFold "aku" coin.denom = true ∧
        (∀ later ∈ after, equalFold "aku" later.denom = false) ∧
        fees.foldl pickFee 0 = coin.amount := by
  induction fees using List.reverseRecOn with
  | nil => exact .inl ⟨rfl, fun _ listed => absurd listed List.not_mem_nil⟩
  | append_singleton fees last ih =>
    rw [List.foldl_append, List.foldl_cons, List.foldl_nil, pickFee]
    cases own : equalFold "aku" last.denom with
    | true =>
      exact .inr ⟨fees, last, [], rfl, own, fun _ listed => absurd listed List.not_mem_nil, rfl⟩
    | false =>
      rcases ih with ⟨zero, none⟩ | ⟨before, coin, after, rfl, match_, none, picked⟩
      · refine .inl ⟨zero, fun coin listed => ?_⟩
        rcases List.mem_append.mp listed with earlier | latest
        · exact none coin earlier
        · rw [List.mem_singleton.mp latest]
          exact own
      · refine .inr ⟨before, coin, after ++ [last], by simp, match_, fun later listed => ?_, picked⟩
        rcases List.mem_append.mp listed with earlier | latest
        · exact none later earlier
        · rw [List.mem_singleton.mp latest]
          exact own

/-- What folds to one of the letters is the letter in either case. -/
theorem toLower_cases {char letter : Char} (listed : letter ∈ ['a', 'k', 'u'])
    (same : char.toLower = letter) : char = letter ∨ char = letter.toUpper := by
  unfold Char.toLower at same
  split at same
  · rename_i upper
    have high : char.toNat ≤ 90 := UInt32.le_iff_toNat_le.mp upper.2
    have code : (char.toNat + 32) % 2 ^ 32 = letter.toNat := by
      rw [← same]
      exact (UInt32.toNat_add char.val 32).symm
    right
    apply Char.toNat_inj.mp
    simp only [List.mem_cons, List.not_mem_nil, or_false] at listed
    rcases listed with rfl | rfl | rfl
    · change char.toNat = 65
      change _ = 97 at code
      omega
    · change char.toNat = 75
      change _ = 107 at code
      omega
    · change char.toNat = 85
      change _ = 117 at code
      omega
  · exact .inl same

/-- An ASCII character that folds to a small letter is the letter in either case. -/
theorem foldChar_cases {char letter : Char} (small : char.toNat < 128)
    (listed : letter ∈ ['a', 'k', 'u']) (same : foldChar char = letter) :
    char = letter ∨ char = letter.toUpper := by
  have plain : foldChar char = char.toLower := by
    rw [foldChar, if_neg, if_neg]
    · rintro rfl
      exact absurd small (by decide)
    · rintro rfl
      exact absurd small (by decide)
  rw [plain] at same
  exact toLower_cases listed same

/-- Of the spellings of aku none comes after it. -/
theorem not_lt_spelling {denom : Denom} (valid : validDenom denom = true)
    (same : equalFold "aku" denom = true) : ¬ "aku" < denom := by
  have ascii := Relayer.validDenom_small valid
  rw [equalFold, decide_eq_true_eq] at same
  have letters : denom.toList.map foldChar = ['a', 'k', 'u'] := by
    rw [← same]
    decide +kernel
  obtain ⟨first, rest, split, one, others⟩ := List.map_eq_cons_iff.mp letters
  obtain ⟨second, rest, rfl, two, others⟩ := List.map_eq_cons_iff.mp others
  obtain ⟨third, rest, rfl, three, others⟩ := List.map_eq_cons_iff.mp others
  rw [List.map_eq_nil_iff.mp others] at split
  rw [split] at ascii
  have firsts := foldChar_cases (ascii first (by simp)) (by decide) one
  have seconds := foldChar_cases (ascii second (by simp)) (by decide) two
  have thirds := foldChar_cases (ascii third (by simp)) (by decide) three
  have whole : denom = String.ofList [first, second, third] := by
    rw [← split, String.ofList_toList]
  rw [whole]
  rcases firsts with rfl | rfl <;> rcases seconds with rfl | rfl <;> rcases thirds with rfl | rfl <;>
    decide +kernel

end Fees

/-- A transaction that is passed on and is not one distribution message pays the largest minimum of
its messages in one coin that is aku up to letter case, which is aku itself if the fee has any. The
order of the messages changes nothing. -/
theorem min_fee_enforced (ctx : Context) (msgs : List String) (fees : Coins)
    (valid : fees.isValid = true) (others : singleDistribution msgs = false) :
    (∀ next, anteHandle ctx ⟨msgs, some fees⟩ = .ok next → required msgs = 0 ∨
      ∃ coin ∈ fees, equalFold "aku" coin.denom = true ∧ required msgs ≤ coin.amount ∧
        ∀ aku ∈ fees, aku.denom = "aku" → coin = aku) ∧
    ∀ order, order.Perm msgs →
      anteHandle ctx ⟨order, some fees⟩ = anteHandle ctx ⟨msgs, some fees⟩ := by
  constructor
  · intro next passed
    by_cases free : required msgs = 0
    · exact .inl free
    · right
      simp only [anteHandle, others, Bool.false_eq_true, if_false, foldl_raiseMinFee_zero, if_neg free,
        Result.bind_ok, Outcome.present_ok, Option.some.injEq, Outcome.require_ok] at passed
      obtain ⟨_, rfl, _, positive, _, enough, -⟩ := passed
      rcases foldl_pickFee fees with ⟨zero, -⟩ | ⟨before, coin, after, split, spelled, none, picked⟩
      · rw [zero] at positive
        exact absurd positive (lt_irrefl 0)
      · rw [picked] at enough
        refine ⟨coin, by simp [split], spelled, enough, fun aku listed named => ?_⟩
        rw [split] at listed
        rcases List.mem_append.mp listed with earlier | rest
        · -- what is sorted before the picked coin is another spelling
          rw [Coins.isValid, Bool.and_eq_true, decide_eq_true_eq, split] at valid
          have sorted := (List.pairwise_append.mp valid.1).2.2 aku earlier coin List.mem_cons_self
          rw [named] at sorted
          exact absurd sorted (not_lt_spelling coin.denomValid spelled)
        · rcases List.mem_cons.mp rest with same | later
          · exact same.symm
          · have unspelled := none aku later
            rw [named] at unspelled
            exact absurd unspelled (by decide +kernel)
  · intro order permuted
    simp only [anteHandle, foldl_raiseMinFee_zero, required_perm permuted,
      singleDistribution_perm permuted]

section Sample

/-- The type of a send of the bank. -/
def sendURL : String := "/cosmos.bank.v1beta1.MsgSend"

/-- The type of a transfer over IBC. -/
def transferURL : String := "/ibc.applications.transfer.v1.MsgTransfer"

/-- A coin of a tenth. -/
def tenth (denom : Denom) (denomValid : validDenom denom = true) : Coin :=
  ⟨denom, highFee, denomValid, by decide⟩

/-- The fee's denomination is valid. -/
theorem aku_valid : validDenom "aku" = true := by decide +kernel

/-- A transaction with a send and a transfer pays the high fee in aku. -/
theorem send_pays_aku :
    anteHandle ⟨[]⟩ ⟨[sendURL, transferURL], some [tenth "aku" aku_valid]⟩ = .ok ⟨[]⟩ ∧
      ∃ coin ∈ [tenth "aku" aku_valid], equalFold "aku" coin.denom = true ∧
        required [sendURL, transferURL] ≤ coin.amount := by
  have passed : anteHandle ⟨[]⟩ ⟨[sendURL, transferURL], some [tenth "aku" aku_valid]⟩ =
      .ok ⟨[]⟩ := by
    decide +kernel
  have enforced := (min_fee_enforced ⟨[]⟩ [sendURL, transferURL] [tenth "aku" aku_valid]
    (by decide +kernel) (by decide +kernel)).1 ⟨[]⟩ passed
  rcases enforced with free | ⟨coin, listed, spelled, enough, -⟩
  · exact absurd free (by decide +kernel)
  · exact ⟨passed, coin, listed, spelled, enough⟩

/-- A fee without any aku is passed on. -/
theorem capital_fee_passes :
    anteHandle ⟨[]⟩ ⟨[sendURL], some [tenth "AKU" (by decide +kernel)]⟩ = .ok ⟨[]⟩ ∧
      Coins.isValid [tenth "AKU" (by decide +kernel)] = true ∧
      singleDistribution [sendURL] = false ∧ required [sendURL] = highFee ∧
      Coins.amountOf [tenth "AKU" (by decide +kernel)] "aku" = 0 := by
  decide +kernel

end Sample

end Akhira.Verif.Ante
