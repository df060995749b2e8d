import Gatehouse.Proofs.Blacklist
import Mathlib.Data.Finset.Card
import Mathlib.Data.List.Induction

/-! # What pruning leaves of a history of refusals

To refuse a token drops what has expired, and puts nothing in for a token that has expired itself.
Where the clock does not go back and one id is always given one expiry (`Coherent`), the history
alone says what is listed after it: an id with an expiry that some refusal gave it, if that expiry
lies behind all the refusals (`lists_after`).  A table that is never pruned lists the same ids
without that condition (`lists_unpruned`), and whoever asks after the last refusal does not see the
difference (`pruning_unseen`). -/

namespace Gatehouse

namespace Blacklist

/-- A refusal: of which token, with which expiry, and when. -/
structure Refusal where
  tokenId : String
  expiresAt : Instant
  now : Instant
  deriving DecidableEq, Repr

variable {history earlier : List Refusal} {last : Refusal} {id : String} {expiry t : Instant}

/-- The blacklist after a history of refusals. -/
def after (history : List Refusal) : Blacklist :=
  history.foldl (fun b r => b.revoke r.tokenId r.expiresAt r.now) empty

/-- The blacklist after a history in which every refusal makes its entry and none drops any. -/
def unpruned (history : List Refusal) : Blacklist :=
  ⟨history.foldl (fun entries r => entries.insert r.tokenId r.expiresAt) .empty⟩

/-- The clock does not go back, and refusals of one id give it one expiry. -/
structure Coherent (history : List Refusal) : Prop where
  forward : history.Pairwise fun r r' => r.now ≤ r'.now
  agreeing : ∀ r ∈ history, ∀ r' ∈ history, r.tokenId = r'.tokenId → r.expiresAt = r'.expiresAt

/-- Some refusal gives the id the expiry. -/
def Gives (history : List Refusal) (id : String) (expiry : Instant) : Prop :=
  ∃ r ∈ history, r.tokenId = id ∧ r.expiresAt = expiry

/-- The ids that were refused with an expiry after an instant. -/
def refusedBeyond (history : List Refusal) (t : Instant) : Finset String :=
  ((history.filter fun r => decide (t < r.expiresAt)).map (·.tokenId)).toFinset

theorem mem_refusedBeyond :
    id ∈ refusedBeyond history t ↔ ∃ r ∈ history, r.tokenId = id ∧ t < r.expiresAt := by
  unfold refusedBeyond
  simp only [List.mem_toFinset, List.mem_map, List.mem_filter, decide_eq_true_eq]
  exact exists_congr fun r => ⟨fun ⟨⟨hr, hlt⟩, hid⟩ => ⟨hr, hid, hlt⟩,
    fun ⟨hr, hid, hlt⟩ => ⟨⟨hr, hlt⟩, hid⟩⟩

/-! ### Histories -/

theorem after_concat (earlier : List Refusal) (last : Refusal) :
    after (earlier ++ [last]) =
      (after earlier).revoke last.tokenId last.expiresAt last.now := List.foldl_concat ..

theorem gives_concat :
    Gives (earlier ++ [last]) id expiry ↔
      Gives earlier id expiry ∨ last.tokenId = id ∧ last.expiresAt = expiry := by
  unfold Gives
  simp only [List.mem_append, List.mem_singleton, or_and_right, exists_or, exists_eq_left]

namespace Coherent

theorem shortened (h : Coherent history) (hfirst : earlier <+: history) : Coherent earlier where
  forward := h.forward.sublist hfirst.sublist
  agreeing r hr r' hr' := h.agreeing r (hfirst.subset hr) r' (hfirst.subset hr')

/-- No refusal comes after the last. -/
theorem now_le_last (h : Coherent (earlier ++ [last])) :
    ∀ r ∈ earlier ++ [last], r.now ≤ last.now := by
  intro r hr
  rcases List.mem_append.mp hr with hearlier | hlast
  · exact (List.pairwise_append.mp h.forward).2.2 r hearlier last (List.mem_singleton_self last)
  · rw [List.mem_singleton.mp hlast]
    exact Instant.le_refl last.now

/-- What lies after the last refusal lies after all of them. -/
theorem now_lt_iff (h : Coherent (earlier ++ [last])) :
    (∀ r ∈ earlier ++ [last], r.now < t) ↔ last.now < t :=
  ⟨fun hall => hall last List.mem_concat_self,
    fun hlt r hr => Instant.lt_of_le_of_lt (h.now_le_last r hr) hlt⟩

theorem now_le (h : Coherent history) (ht : ∀ last ∈ history.getLast?, last.now ≤ t) :
    ∀ r ∈ history, r.now ≤ t := by
  intro r hr
  obtain ⟨earlier, last, rfl⟩ :=
    (List.eq_nil_or_concat' history).resolve_left (List.ne_nil_of_mem hr)
  exact Instant.le_trans (h.now_le_last r hr) (ht last List.getLast?_concat)

end Coherent

/-! ### What is listed -/

theorem distinct_after (history : List Refusal) : (after history).entries.Distinct := by
  induction history using List.reverseRecOn with
  | nil => exact distinct_empty
  | append_singleton earlier last ih =>
      rw [after_concat]
      exact distinct_revoke ih _ _ _

/-- **What a history leaves.**  An id is listed with an expiry if and only if the history gives it
that expiry and made no refusal from then on. -/
theorem lists_after (h : Coherent history) :
    (after history).Lists id expiry ↔ Gives history id expiry ∧ ∀ r ∈ history, r.now < expiry := by
  induction history using List.reverseRecOn with
  | nil => exact ⟨fun hlists => (nomatch hlists), fun ⟨⟨_, hr, _⟩, _⟩ => (nomatch hr)⟩
  | append_singleton earlier last ih =>
      rw [after_concat, lists_revoke (distinct_after earlier), h.now_lt_iff,
        ih (h.shortened (List.prefix_append earlier [last]))]
      by_cases hput : last.now < last.expiresAt ∧ last.tokenId = id
      · -- The last refusal makes the entry: the id has no other expiry in the whole history.
        obtain ⟨hlasting, rfl⟩ := hput
        rw [if_pos ⟨hlasting, rfl⟩]
        constructor
        · rintro rfl
          exact ⟨⟨last, List.mem_concat_self, rfl, rfl⟩, hlasting⟩
        · rintro ⟨⟨r, hr, hid, rfl⟩, _⟩
          exact h.agreeing r hr last List.mem_concat_self hid
      · -- It makes no entry for the id: what counts beyond it was given before, and not dropped.
        rw [if_neg hput]
        refine and_congr_left fun hlt => ?_
        have hbefore : ∀ r ∈ earlier, r.now < expiry := fun r hr =>
          h.now_lt_iff.mpr hlt r (List.mem_append_left [last] hr)
        rw [and_iff_left hbefore, gives_concat]
        refine (or_iff_left ?_).symm
        rintro ⟨hid, rfl⟩
        exact hput ⟨hlt, hid⟩

/-- A table that is never pruned lists whatever the history gives. -/
theorem lists_unpruned (h : Coherent history) :
    (unpruned history).Lists id expiry ↔ Gives history id expiry := by
  induction history using List.reverseRecOn with
  | nil => exact ⟨fun hlists => (nomatch hlists), fun ⟨_, hr, _⟩ => (nomatch hr)⟩
  | append_singleton earlier last ih =>
      have hconcat : (unpruned (earlier ++ [last])).entries =
          (unpruned earlier).entries.insert last.tokenId last.expiresAt := List.foldl_concat ..
      unfold Lists at ih ⊢
      rw [hconcat, Table.get?_insert]
      split_ifs with hid
      · rw [Option.some.injEq]
        constructor
        · exact fun hexpiry => ⟨last, List.mem_concat_self, hid, hexpiry⟩
        · rintro ⟨r, hr, hid', rfl⟩
          exact h.agreeing last List.mem_concat_self r hr (hid.trans hid'.symm)
      · rw [ih (h.shortened (List.prefix_append earlier [last])), gives_concat]
        exact (or_iff_left fun hlast => hid hlast.1).symm

/-! ### What is seen -/

/-- If an expiry that has not passed is listed just where the history gives it, the tokens that are
refused are those of the history that have not expired. -/
theorem isRevoked_iff_mem {b : Blacklist}
    (hlists : ∀ expiry, t < expiry → (b.Lists id expiry ↔ Gives history id expiry)) :
    b.isRevoked id t = true ↔ id ∈ refusedBeyond history t := by
  rw [isRevoked_iff, mem_refusedBeyond]
  constructor
  · rintro ⟨expiry, hlisted, hlt⟩
    obtain ⟨r, hr, hid, rfl⟩ := (hlists expiry hlt).mp hlisted
    exact ⟨r, hr, hid, hlt⟩
  · rintro ⟨r, hr, hid, hlt⟩
    exact ⟨r.expiresAt, (hlists r.expiresAt hlt).mpr ⟨r, hr, hid, rfl⟩, hlt⟩

theorem isRevoked_after (h : Coherent history) (ht : ∀ r ∈ history, r.now ≤ t) :
    (after history).isRevoked id t = true ↔ id ∈ refusedBeyond history t := by
  refine isRevoked_iff_mem fun expiry hlt => (lists_after h).trans (and_iff_left ?_)
  exact fun r hr => Instant.lt_of_le_of_lt (ht r hr) hlt

theorem isRevoked_unpruned (h : Coherent history) :
    (unpruned history).isRevoked id t = true ↔ id ∈ refusedBeyond history t :=
  isRevoked_iff_mem fun _ _ => lists_unpruned h

/-- After a refusal there are as many entries as ids that were refused beyond it. -/
theorem size_after (h : Coherent (earlier ++ [last])) :
    (after (earlier ++ [last])).size = (refusedBeyond (earlier ++ [last]) last.now).card := by
  have hd := distinct_after (earlier ++ [last])
  have hkeys : (after (earlier ++ [last])).entries.keys.toFinset =
      refusedBeyond (earlier ++ [last]) last.now := by
    ext id
    rw [List.mem_toFinset, Table.mem_keys hd, mem_refusedBeyond]
    constructor
    · rintro ⟨expiry, hlists⟩
      obtain ⟨⟨r, hr, hid, rfl⟩, hafter⟩ := (lists_after h).mp hlists
      exact ⟨r, hr, hid, h.now_lt_iff.mp hafter⟩
    · rintro ⟨r, hr, hid, hlt⟩
      exact ⟨r.expiresAt, (lists_after h).mpr ⟨⟨r, hr, hid, rfl⟩, h.now_lt_iff.mpr hlt⟩⟩
  calc (after (earlier ++ [last])).size
      = (after (earlier ++ [last])).entries.keys.length := (List.length_map _).symm
    _ = (after (earlier ++ [last])).entries.keys.toFinset.card :=
        (List.toFinset_card_of_nodup hd).symm
    _ = (refusedBeyond (earlier ++ [last]) last.now).card := by rw [hkeys]

/-- **Pruning is not seen.**  If the clock does not go back and one id is always given one expiry,
whoever asks after the last refusal is told of an id what a table would tell that is never pruned:
it is refused if and only if some refusal gave it an expiry that has not passed.  And right after
each refusal there are as many entries as ids refused so far whose expiry it has not reached. -/
theorem pruning_unseen (h : Coherent history) :
    (∀ t, (∀ last ∈ history.getLast?, last.now ≤ t) → ∀ id,
      ((after history).isRevoked id t = true ↔
        ∃ r ∈ history, r.tokenId = id ∧ t < r.expiresAt) ∧
      (after history).isRevoked id t = (unpruned history).isRevoked id t) ∧
    ∀ earlier last, earlier ++ [last] <+: history →
      (after (earlier ++ [last])).size = (refusedBeyond (earlier ++ [last]) last.now).card := by
  refine ⟨fun t ht id => ?_, fun earlier last hfirst => size_after (h.shortened hfirst)⟩
  have hafter : (after history).isRevoked id t = true ↔ id ∈ refusedBeyond history t :=
    isRevoked_after h (h.now_le ht)
  refine ⟨hafter.trans mem_refusedBeyond, ?_⟩
  rw [Bool.eq_iff_iff, hafter, isRevoked_unpruned h]

end Blacklist

/-- Refusals of which one is repeated, and of which the last comes too late and drops the first. -/
def Sample.refusals : List Blacklist.Refusal :=
  [⟨"first", .ofSeconds 60, .ofSeconds 0⟩, ⟨"second", .ofSeconds 3600, .ofSeconds 10⟩,
    ⟨"first", .ofSeconds 60, .ofSeconds 20⟩, ⟨"third", .ofSeconds 50, .ofSeconds 120⟩]

namespace Blacklist

/-- Of three ids one is left, and no question shows that the others were dropped. -/
theorem pruning_unseen_sample :
    let history := Sample.refusals
    Coherent history ∧ (unpruned history).size = 3 ∧ (after history).size = 1 ∧
      (∃ r ∈ history, r.tokenId = "second" ∧ .ofSeconds 120 < r.expiresAt) ∧
      (after history).isRevoked "second" (.ofSeconds 120) = true ∧
      ∀ id, (after history).isRevoked id (.ofSeconds 120) =
        (unpruned history).isRevoked id (.ofSeconds 120) := by
  intro history
  have hcoherent : Coherent history := ⟨by decide, by decide⟩
  have hlast : ∀ last ∈ history.getLast?, last.now ≤ .ofSeconds 120 := by decide
  obtain ⟨hseen, hsize⟩ := pruning_unseen hcoherent
  have hsecond : ∃ r ∈ history, r.tokenId = "second" ∧ Instant.ofSeconds 120 < r.expiresAt := by
    decide
  have hone := hsize (history.take 3) ⟨"third", .ofSeconds 50, .ofSeconds 120⟩ (List.prefix_refl _)
  exact ⟨hcoherent, by decide, hone.trans (by decide), hsecond,
    (hseen _ hlast "second").1.mpr hsecond, fun id => (hseen _ hlast id).2⟩

end Blacklist

end Gatehouse
