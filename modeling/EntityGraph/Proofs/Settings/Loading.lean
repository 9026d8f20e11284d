import EntityGraph.Proofs.Entity.Checks
import EntityGraph.Settings.Basic
/-!
What is certain of settings that have been loaded.

* `Settings.InRange`, `Settings.Sound`: the numbers in the settings are in their ranges, and go
  together.
* `setting_inv`: a setting that has been read is the usual one or has passed its check.
* `sound_of_load`: whatever the source says, settings that have been loaded are sound.
-/

namespace EntityGraph.Settings

open Checked

/-- The numbers in the settings that have to be in a range are in it. -/
structure InRange (s : Settings) : Prop where
  poolSize : 1 ≤ s.gremlinPoolSize
  writeConcurrency : 1 ≤ s.writeConcurrency
  defaultLimit : 1 ≤ s.queryDefaultLimit
  maxLimit : 1 ≤ s.queryMaxLimit
  maxHops : 1 ≤ s.relatedMaxHops
  maxRetries : 0 ≤ s.ingestMaxRetries

/-- Moreover, no more rows are returned without being asked for than may be asked for. -/
structure Sound (s : Settings) : Prop extends s.InRange where
  consistent : s.queryDefaultLimit ≤ s.queryMaxLimit

variable {source : Source} {s : Settings}

/-- What is true of the usual value and of every value that is read is true of a setting. -/
lemma setting_inv {α : Type} {P : α → Prop} {name : String} {usual a : α}
    {read : Value → Checked α} (husual : P usual) (hread : ∀ v a, read v = valid a → P a)
    (h : source.setting name usual read = valid a) : P a := by
  rw [Source.setting] at h
  cases hvalue : source.value? name with
  | none =>
      rw [hvalue] at h
      exact valid.inj h ▸ husual
  | some v =>
      rw [hvalue] at h
      cases hr : read v with
      | valid b =>
          simp only [hr, under] at h
          exact valid.inj h ▸ hread v b hr
      | invalid issues =>
          simp only [hr, under] at h
          exact absurd h (by simp)

lemma positiveInteger_inv (v : Value) (n : Int) (h : positiveInteger v = valid n) : 1 ≤ n := by
  obtain ⟨m, -, hm⟩ := andThen_inv h
  by_cases hlow : m < 1
  · rw [if_pos hlow] at hm
    exact absurd hm (by simp [complain])
  · rw [if_neg hlow] at hm
    rw [← valid.inj hm]
    omega

lemma retries_inv (v : Value) (n : Int) (h : retries v = valid n) : 0 ≤ n := by
  obtain ⟨m, -, hm⟩ := andThen_inv h
  by_cases hlow : m < 0
  · rw [if_pos hlow] at hm
    exact absurd hm (by simp [complain])
  · rw [if_neg hlow] at hm
    rw [← valid.inj hm]
    omega

/-- Settings that go together have room for the rows that are returned without being asked for. -/
lemma default_le_max (h : s.inconsistencies.isEmpty = true) :
    s.queryDefaultLimit ≤ s.queryMaxLimit := by
  by_contra hlt
  have hlimits : (if s.queryMaxLimit < s.queryDefaultLimit
      then [Inconsistency.limitAboveMaximum] else []) = [] :=
    (List.append_eq_nil_iff.mp (List.isEmpty_iff.mp h)).2
  rw [if_pos (Int.not_le.mp hlt)] at hlimits
  exact absurd hlimits (List.cons_ne_nil _ _)

/-- Parts that are put together have been read. -/
lemma seq_inv {α β : Type} {f : Checked (α → β)} {x : Checked α} {b : β}
    (h : (f <*> x) = valid b) : ∃ g a, f = valid g ∧ x = valid a ∧ g a = b :=
  apply_inv h

lemma inRange_of_read (h : read source = valid s) : s.InRange := by
  unfold read at h
  -- The parts come off from the last one on; only the numbers with a range are looked at.
  obtain ⟨_, _, h24, -, rfl⟩ := seq_inv h
  obtain ⟨_, _, h23, -, rfl⟩ := seq_inv h24
  obtain ⟨_, _, h22, -, rfl⟩ := seq_inv h23
  obtain ⟨_, _, h21, -, rfl⟩ := seq_inv h22
  obtain ⟨_, _, h20, -, rfl⟩ := seq_inv h21
  obtain ⟨_, _, h19, -, rfl⟩ := seq_inv h20
  obtain ⟨_, maxRetries, h18, hretries, rfl⟩ := seq_inv h19
  obtain ⟨_, _, h17, -, rfl⟩ := seq_inv h18
  obtain ⟨_, _, h16, -, rfl⟩ := seq_inv h17
  obtain ⟨_, _, h15, -, rfl⟩ := seq_inv h16
  obtain ⟨_, _, h14, -, rfl⟩ := seq_inv h15
  obtain ⟨_, maxHops, h13, hhops, rfl⟩ := seq_inv h14
  obtain ⟨_, maxLimit, h12, hmax, rfl⟩ := seq_inv h13
  obtain ⟨_, defaultLimit, h11, hdefault, rfl⟩ := seq_inv h12
  obtain ⟨_, concurrency, h10, hconcurrency, rfl⟩ := seq_inv h11
  obtain ⟨_, _, h9, -, rfl⟩ := seq_inv h10
  obtain ⟨_, _, h8, -, rfl⟩ := seq_inv h9
  obtain ⟨_, _, h7, -, rfl⟩ := seq_inv h8
  obtain ⟨_, poolSize, h6, hpool, rfl⟩ := seq_inv h7
  obtain ⟨_, _, h5, -, rfl⟩ := seq_inv h6
  obtain ⟨_, _, h4, -, rfl⟩ := seq_inv h5
  obtain ⟨_, _, h3, -, rfl⟩ := seq_inv h4
  obtain ⟨_, _, h2, -, rfl⟩ := seq_inv h3
  obtain ⟨_, _, h1, -, rfl⟩ := seq_inv h2
  obtain ⟨_, -, rfl⟩ := map_inv h1
  exact
    { poolSize := setting_inv (by decide) positiveInteger_inv hpool
      writeConcurrency := setting_inv (by decide) positiveInteger_inv hconcurrency
      defaultLimit := setting_inv (by decide) positiveInteger_inv hdefault
      maxLimit := setting_inv (by decide) positiveInteger_inv hmax
      maxHops := setting_inv (by decide) positiveInteger_inv hhops
      maxRetries := setting_inv (by decide) retries_inv hretries }

/-- **Settings that have been loaded are sound.** -/
theorem sound_of_load (h : load source = .ok s) : s.Sound := by
  unfold load at h
  split at h
  · exact absurd h (by simp)
  · rename_i s' hread
    split at h
    · rename_i hconsistent
      obtain rfl := Except.ok.inj h
      exact ⟨inRange_of_read hread, default_le_max hconsistent⟩
    · exact absurd h (by simp)

end EntityGraph.Settings
