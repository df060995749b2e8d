import Gatehouse.Blacklist
import Gatehouse.Proofs.Calendar
import Gatehouse.Proofs.Table

/-! # How long a token stays refused

The blacklist lists ids of tokens with their expiry.  To refuse a token lists it if it has not
expired, and drops what has (`lists_revoke`).  An entry counts before its expiry only
(`isRevoked_iff`), so what is dropped counts for nothing any more. -/

namespace Gatehouse.Blacklist

variable {b : Blacklist} {tokenId id : String} {expiresAt expiry now : Instant}

/-- The id is listed with the expiry. -/
def Lists (b : Blacklist) (tokenId : String) (expiresAt : Instant) : Prop :=
  b.entries.get? tokenId = some expiresAt

theorem Lists.unique (h : b.Lists id expiresAt) (h' : b.Lists id expiry) : expiry = expiresAt :=
  Option.some.inj (h'.symm.trans h)

theorem isRevoked_iff :
    b.isRevoked id now = true ↔ ∃ expiry, b.Lists id expiry ∧ now < expiry := by
  unfold isRevoked
  rw [Option.any_eq_true]
  simp only [decide_eq_true_eq]
  rfl

theorem distinct_empty : empty.entries.Distinct := Table.distinct_empty

/-- The entries that have not expired. -/
def kept (b : Blacklist) (now : Instant) : Table String Instant :=
  b.entries.filter fun _ expiry => decide (now < expiry)

theorem entries_revoke (b : Blacklist) (tokenId : String) (expiresAt now : Instant) :
    (b.revoke tokenId expiresAt now).entries =
      if now < expiresAt then (b.kept now).insert tokenId expiresAt else b.kept now := rfl

theorem distinct_revoke (hd : b.entries.Distinct) (tokenId : String) (expiresAt now : Instant) :
    (b.revoke tokenId expiresAt now).entries.Distinct := by
  have hkept : (b.kept now).Distinct := hd.filter _
  rw [entries_revoke]
  split_ifs
  · exact hkept.insert tokenId expiresAt
  · exact hkept

/-- What is listed after a token was refused: the token, if it has not expired, and what was listed
under other ids and has not expired. -/
theorem lists_revoke (hd : b.entries.Distinct) :
    (b.revoke tokenId expiresAt now).Lists id expiry ↔
      if now < expiresAt ∧ tokenId = id then expiry = expiresAt
      else b.Lists id expiry ∧ now < expiry := by
  have hkept : (b.kept now).get? id = some expiry ↔ b.Lists id expiry ∧ now < expiry := by
    unfold kept
    rw [Table.get?_filter hd, decide_eq_true_eq]
    rfl
  rw [← hkept]
  change (b.revoke tokenId expiresAt now).entries.get? id = some expiry ↔ _
  rw [entries_revoke]
  by_cases hlasting : now < expiresAt
  · by_cases hid : tokenId = id
    · rw [if_pos hlasting, if_pos ⟨hlasting, hid⟩, Table.get?_insert, if_pos hid,
        Option.some.injEq, eq_comm]
    · rw [if_pos hlasting, if_neg fun h => hid h.2, Table.get?_insert, if_neg hid]
  · rw [if_neg hlasting, if_neg fun h => hlasting h.1]

/-- The token is refused until its expiry: it is listed with it, or it has expired. -/
def Covers (b : Blacklist) (tokenId : String) (expiresAt now : Instant) : Prop :=
  expiresAt ≤ now ∨ b.Lists tokenId expiresAt

theorem Covers.isRevoked (h : b.Covers tokenId expiresAt now) (hlt : now < expiresAt) :
    b.isRevoked tokenId now = true := by
  rcases h with hle | hlists
  · exact absurd hlt (Instant.not_lt.mpr hle)
  · exact isRevoked_iff.mpr ⟨expiresAt, hlists, hlt⟩

theorem Covers.later (h : b.Covers tokenId expiresAt now) {t : Instant} (ht : now ≤ t) :
    b.Covers tokenId expiresAt t := h.imp (fun hle => Instant.le_trans hle ht) id

/-- A token that is refused now is covered from now on. -/
theorem covers_revoke (hd : b.entries.Distinct) (tokenId : String) (expiresAt now : Instant) :
    (b.revoke tokenId expiresAt now).Covers tokenId expiresAt now := by
  by_cases hlasting : now < expiresAt
  · refine .inr ((lists_revoke hd).mpr ?_)
    rw [if_pos ⟨hlasting, rfl⟩]
  · exact .inl (Instant.not_lt.mp hlasting)

/-- Whatever is refused after it, a token stays covered, if the clock does not go back and no other
expiry is given for its id. -/
theorem Covers.revoke (h : b.Covers tokenId expiresAt now) (hd : b.entries.Distinct) {t : Instant}
    (ht : t ≤ now) (hsame : id = tokenId → expiry = expiresAt) :
    (b.revoke id expiry t).Covers tokenId expiresAt now := by
  rcases h with hle | hlists
  · exact .inl hle
  · by_cases hlasting : now < expiresAt
    · refine .inr ((lists_revoke hd).mpr ?_)
      split_ifs with hid
      · exact (hsame hid.2).symm
      · exact ⟨hlists, Instant.lt_of_le_of_lt ht hlasting⟩
    · exact .inl (Instant.not_lt.mp hlasting)

/-- To refuse a token that is covered once more is not seen from then on: its entry stays, and the
entries that are dropped have expired. -/
theorem Covers.isRevoked_revoke (h : b.Covers tokenId expiresAt now) (hd : b.entries.Distinct)
    {t t' : Instant} (ht : now ≤ t) (ht' : t ≤ t') (id : String) :
    (b.revoke tokenId expiresAt t).isRevoked id t' = b.isRevoked id t' := by
  have hlists (expiry : Instant) (hlasting : t' < expiry) :
      (b.revoke tokenId expiresAt t).Lists id expiry ↔ b.Lists id expiry := by
    have hkept : t < expiry := Instant.lt_of_le_of_lt ht' hlasting
    rw [lists_revoke hd]
    by_cases hid : t < expiresAt ∧ tokenId = id
    · obtain ⟨hvalid, rfl⟩ := hid
      rcases h with hle | hlists
      · exact absurd (Instant.lt_of_le_of_lt ht hvalid) (Instant.not_lt.mpr hle)
      · rw [if_pos ⟨hvalid, rfl⟩]
        exact ⟨fun heq => heq ▸ hlists, fun hlists' => hlists.unique hlists'⟩
    · rw [if_neg hid]
      exact and_iff_left hkept
  rw [Bool.eq_iff_iff, isRevoked_iff, isRevoked_iff]
  exact exists_congr fun expiry => and_congr_left fun hlasting => hlists expiry hlasting

end Gatehouse.Blacklist
