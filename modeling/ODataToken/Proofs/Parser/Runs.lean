import ODataToken.Proofs.CharClass
import ODataToken.Proofs.Parser.Reads
import ODataToken.Proofs.Text.Digits

/-!
# What runs read

The parsers that take as many characters of a class as there are, for classes that are told unit by
unit.  A run without a limit stops in front of a unit outside the class or at the end; a run with a
limit may also stop at the limit.
-/

set_option autoImplicit false

namespace ODataToken
namespace Parser

open Text

variable {accepts : CharClass} {units : CodeUnit → Bool} {least n : Nat} {expected v c r w : Text}

theorem takeWhile_reads_iff (h : accepts.OfUnits units) :
    (takeWhile accepts).Reads v c r ↔ v = c ∧ (∀ u ∈ c, units u = true) ∧ StopsAt units r := by
  rw [← takeWhile_append_eq_iff]
  simp only [Reads, takeWhile, takeBetween, List.drop_zero, Nat.not_lt_zero, if_false,
    takeCodePoints_none, flatten_takeWhile_codePoints h, Nat.zero_add, Result.ok.injEq]
  constructor
  · rintro ⟨rfl, hlen⟩
    obtain ⟨t, ht⟩ := takeWhile_isPrefix units (c ++ r)
    have hc := (List.append_inj ht hlen).1
    exact ⟨hc, hc⟩
  · rintro ⟨rfl, hc⟩
    rw [hc]; exact ⟨rfl, rfl⟩

theorem takeWhile1_run_zero (h : accepts.OfUnits units) (w : Text) :
    (takeWhile1 accepts expected).run w 0
      = if w.takeWhile units = [] then .fail (.shape 0 expected)
        else .ok (w.takeWhile units) (w.takeWhile units).length := by
  have hempty : (w.codePoints.takeWhile accepts).length < 1 ↔ w.takeWhile units = [] := by
    rw [← flatten_takeWhile_codePoints h, Nat.lt_one_iff, List.length_eq_zero_iff]
    refine ⟨fun h => by rw [h]; rfl, fun hf => List.eq_nil_iff_forall_not_mem.mpr fun c hc => ?_⟩
    exact ne_nil_of_mem_codePoints ((List.takeWhile_subset accepts) hc)
      (List.flatten_eq_nil_iff.mp hf c hc)
  simp only [takeWhile1, takeBetween, List.drop_zero, takeCodePoints_none, hempty,
    flatten_takeWhile_codePoints h, Nat.zero_add]

theorem takeWhile1_reads_iff (h : accepts.OfUnits units) :
    (takeWhile1 accepts expected).Reads v c r
      ↔ v = c ∧ c ≠ [] ∧ (∀ u ∈ c, units u = true) ∧ StopsAt units r := by
  rw [Reads, takeWhile1_run_zero h, ← takeWhile_append_eq_iff]
  constructor
  · intro hrun
    split at hrun
    · cases hrun
    · rename_i hne
      rw [Result.ok.injEq] at hrun
      obtain ⟨rfl, hlen⟩ := hrun
      obtain ⟨t, ht⟩ := takeWhile_isPrefix units (c ++ r)
      have hc := (List.append_inj ht hlen).1
      exact ⟨hc, hc ▸ hne, hc⟩
  · rintro ⟨rfl, hne, hc⟩
    rw [hc, if_neg hne]

theorem takeWhile1_refuses_iff (h : accepts.OfUnits units) :
    (takeWhile1 accepts expected).Refuses w ↔ StopsAt units w := by
  have hnil : w.takeWhile units = [] ↔ _ := takeWhile_append_eq_iff (c := [])
  rw [Refuses, takeWhile1_run_zero h]
  split <;> simp_all

/-- A run with a limit stops there or in front of a unit that is not in the class. -/
theorem takeBetween_reads_iff (h : accepts.OfSingleUnits units) :
    (takeBetween accepts least (some n) expected).Reads v c r
      ↔ v = c ∧ (∀ u ∈ c, units u = true) ∧ least ≤ c.length ∧ c.length ≤ n
          ∧ (c.length = n ∨ StopsAt units r) := by
  have htaken : ((c ++ r).takeCodePoints accepts (some n))
      = (((c ++ r).takeWhile units).take n).map fun u => [u] := by
    rw [takeCodePoints_some, takeWhile_codePoints h, List.map_take]
  have hflat : ((c ++ r).takeCodePoints accepts (some n)).flatten
      = ((c ++ r).takeWhile units).take n := by
    rw [htaken, ← List.flatMap_def, List.flatMap_singleton']
  simp only [Reads, takeBetween, List.drop_zero, Nat.zero_add, hflat]
  rw [htaken, List.length_map]
  constructor
  · intro hrun
    split at hrun
    · cases hrun
    · rename_i hleast
      rw [Result.ok.injEq] at hrun
      obtain ⟨rfl, hlen⟩ := hrun
      have hpre : ((c ++ r).takeWhile units).take n <+: c ++ r := by
        refine List.IsPrefix.trans ?_ (takeWhile_isPrefix units _)
        exact List.take_prefix n _
      obtain ⟨t, ht⟩ := hpre
      have hc := (List.append_inj ht hlen).1
      obtain ⟨hall, hn, hr⟩ := take_takeWhile_append_eq_iff.mp hc
      exact ⟨hc, hall, by omega, hn, hr⟩
  · rintro ⟨rfl, hall, hleast, hn, hr⟩
    rw [take_takeWhile_append_eq_iff.mpr ⟨hall, hn, hr⟩, if_neg (by omega)]

theorem takeExactly_reads_iff (h : accepts.OfSingleUnits units) :
    (takeExactly accepts n expected).Reads v c r
      ↔ v = c ∧ c.length = n ∧ ∀ u ∈ c, units u = true := by
  rw [takeExactly, takeBetween_reads_iff h]
  constructor
  · rintro ⟨hv, hall, hn, hn', -⟩
    exact ⟨hv, Nat.le_antisymm hn' hn, hall⟩
  · rintro ⟨hv, hn, hall⟩
    exact ⟨hv, hall, Nat.le_of_eq hn.symm, Nat.le_of_eq hn, .inl hn⟩

/-! ## An optional sign -/

theorem optional_sign_reads_iff {o : Option Text} :
    (optional (oneOf "+-")).Reads o c r
      ↔ (c = [] ∧ o = none ∧ ∀ u ∈ r.head?, u ∉ Text.ofString "+-")
        ∨ (c = "+" ∨ c = "-") ∧ o = some c := by
  rw [optional_oneOf_reads_iff]
  constructor
  · rintro (⟨u, hu, rfl, rfl⟩ | ⟨rfl, rfl, hr⟩)
    · rcases mem_signs_iff.mp hu with rfl | rfl
      · exact .inr ⟨.inl rfl, rfl⟩
      · exact .inr ⟨.inr rfl, rfl⟩
    · exact .inl ⟨rfl, rfl, hr⟩
  · rintro (⟨rfl, rfl, hr⟩ | ⟨rfl | rfl, rfl⟩)
    · exact .inr ⟨rfl, rfl, hr⟩
    · exact .inl ⟨_, mem_signs_iff.mpr (.inl rfl), rfl, rfl⟩
    · exact .inl ⟨_, mem_signs_iff.mpr (.inr rfl), rfl, rfl⟩

/-- Every sign is read, in front of what does not begin with one. -/
theorem exists_optional_sign_reads (hc : c.IsSign) (hr : ∀ u ∈ r.head?, u ∉ Text.ofString "+-") :
    ∃ o, (optional (oneOf "+-")).Reads o c r ∧ (o = some "-" ↔ c = "-") := by
  rcases hc with rfl | hc
  · exact ⟨none, optional_sign_reads_iff.mpr (.inl ⟨rfl, rfl, hr⟩), by decide⟩
  · exact ⟨some c, optional_sign_reads_iff.mpr (.inr ⟨hc, rfl⟩), by simp⟩

/-- What an optional sign has read is one. -/
theorem isSign_of_reads {o : Option Text} (h : (optional (oneOf "+-")).Reads o c r) :
    c.IsSign ∧ (o = some "-" ↔ c = "-") := by
  rcases optional_sign_reads_iff.mp h with ⟨rfl, rfl, -⟩ | ⟨hc, rfl⟩
  · exact ⟨.inl rfl, by decide⟩
  · exact ⟨.inr hc, by simp⟩

end Parser
end ODataToken
