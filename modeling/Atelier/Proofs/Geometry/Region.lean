/-
The region that a closed curve bounds.

A point is enclosed by a curve if every connected set that holds the point and reaches beyond all
bounds meets the curve.  If the curve is the border of a closed and bounded set that is
star-shaped, then the set is what it encloses (`enclosed_eq`): the points outside can leave along
a ray, and those inside are cut off.
-/
import Mathlib.Topology.Connected.Clopen
import Mathlib.Topology.Order.OrderClosed
import Atelier.Proofs.Geometry.Segment

namespace Atelier

/-- Points are near each other if their coordinates are. -/
instance : TopologicalSpace (Point ℝ) :=
  .induced (fun p => (p.x, p.y)) inferInstance

namespace Point

lemma continuous_coordinates : Continuous fun p : Point ℝ => (p.x, p.y) :=
  continuous_induced_dom

@[fun_prop] lemma continuous_x : Continuous (Point.x : Point ℝ → ℝ) :=
  continuous_fst.comp continuous_coordinates

@[fun_prop] lemma continuous_y : Continuous (Point.y : Point ℝ → ℝ) :=
  continuous_snd.comp continuous_coordinates

lemma continuous_mk {β : Type} [TopologicalSpace β] {f g : β → ℝ} (hf : Continuous f)
    (hg : Continuous g) : Continuous fun t => (⟨f t, g t⟩ : Point ℝ) :=
  continuous_induced_rng.2 (hf.prodMk hg)

lemma continuous_along (a b : Point ℝ) : Continuous (along a b) :=
  continuous_mk (by fun_prop) (by fun_prop)

end Point

open Point

/-- A set of points within some square around the origin. -/
def Limited (S : Set (Point ℝ)) : Prop :=
  ∃ r : ℝ, ∀ p ∈ S, |p.x| ≤ r ∧ |p.y| ≤ r

/-- The points that a curve encloses, those of the curve included: every connected set that leads
from the point beyond all bounds meets the curve. -/
def enclosed (curve : Set (Point ℝ)) : Set (Point ℝ) :=
  {p | ∀ S : Set (Point ℝ), IsPreconnected S → p ∈ S → ¬ Limited S → (S ∩ curve).Nonempty}

/-- A disc is limited. -/
lemma limited_of_sq_le {S : Set (Point ℝ)} {c : Point ℝ} {r : ℝ} (hr : 0 ≤ r)
    (h : ∀ p ∈ S, (p.x - c.x) ^ 2 + (p.y - c.y) ^ 2 ≤ r ^ 2) : Limited S := by
  have hwithin : ∀ u d e : ℝ, d ^ 2 + e ^ 2 ≤ r ^ 2 → |u + d| ≤ |u| + r := by
    intro u d e hsq
    have hd : |d| ≤ r := abs_le_of_sq_le_sq (by linarith [sq_nonneg e]) hr
    exact (abs_add_le u d).trans (by linarith)
  refine ⟨|c.x| + |c.y| + r, fun p hp => ?_⟩
  have hx := hwithin c.x (p.x - c.x) (p.y - c.y) (h p hp)
  have hy := hwithin c.y (p.y - c.y) (p.x - c.x) (by linarith [h p hp])
  rw [add_sub_cancel] at hx hy
  exact ⟨by linarith [abs_nonneg c.y], by linarith [abs_nonneg c.x]⟩

/-- A coordinate that changes at a constant rate passes every bound. -/
lemma exists_lt_abs_add_mul {d : ℝ} (hd : d ≠ 0) (r u : ℝ) :
    ∃ t : ℝ, 1 ≤ t ∧ r < |u + t * d| := by
  have hpos : 0 < |d| := abs_pos.2 hd
  refine ⟨max 1 ((r + |u| + 1) / |d|), le_max_left _ _, ?_⟩
  generalize ht : max 1 ((r + |u| + 1) / |d|) = t
  have htpos : 0 < t := ht ▸ lt_max_of_lt_left one_pos
  have hle : r + |u| + 1 ≤ t * |d| := (div_le_iff₀ hpos).1 (ht ▸ le_max_right _ _)
  have hsplit : t * |d| ≤ |u + t * d| + |u| := by
    calc t * |d| = |u + t * d - u| := by rw [add_sub_cancel_left, abs_mul, abs_of_pos htpos]
      _ ≤ |u + t * d| + |u| := abs_sub _ _
  linarith

/-- The ray from `p` straight away from `c`. -/
def ray (c p : Point ℝ) : Set (Point ℝ) :=
  along c p '' Set.Ici 1

lemma not_limited_ray {c p : Point ℝ} (h : c ≠ p) : ¬ Limited (ray c p) := by
  rintro ⟨r, hr⟩
  have hreach : ∀ t : ℝ, 1 ≤ t → |c.x + t * (p.x - c.x)| ≤ r ∧ |c.y + t * (p.y - c.y)| ≤ r :=
    fun t ht => hr _ (Set.mem_image_of_mem _ ht)
  by_cases hx : p.x - c.x = 0
  · have hy : p.y - c.y ≠ 0 := by
      intro hy
      exact h (Point.ext (by linarith) (by linarith))
    obtain ⟨t, ht, hlt⟩ := exists_lt_abs_add_mul hy r c.y
    exact hlt.not_ge (hreach t ht).2
  · obtain ⟨t, ht, hlt⟩ := exists_lt_abs_add_mul hx r c.x
    exact hlt.not_ge (hreach t ht).1

/-- A curve encloses the set that it is the border of, if the set is closed and bounded and holds
with a point all that lies between the point and `c`. -/
theorem enclosed_eq {curve K : Set (Point ℝ)} (c : Point ℝ) (hclosed : IsClosed K)
    (hlimited : Limited K) (hcurve : curve ⊆ K) (hinside : IsOpen (K \ curve)) (hc : c ∈ K)
    (hstar : ∀ p t, 1 ≤ t → along c p t ∈ K → p ∈ K) : enclosed curve = K := by
  ext p
  constructor
  · intro hp
    by_contra hout
    -- The ray from an outer point meets the curve, so that the point would lie inside.
    have hne : c ≠ p := by
      rintro rfl
      exact hout hc
    have hconnected : IsPreconnected (ray c p) :=
      isPreconnected_Ici.image _ (continuous_along c p).continuousOn
    have hmem : p ∈ ray c p := ⟨1, by simp, along_one c p⟩
    obtain ⟨-, ⟨t, ht, rfl⟩, hmeets⟩ := hp _ hconnected hmem (not_limited_ray hne)
    exact hout (hstar p t ht (hcurve hmeets))
  · intro hp S hS hpS hfar
    by_contra hmissed
    have hmiss : ∀ q ∈ S, q ∉ curve := fun q hq hqc => hmissed ⟨q, hq, hqc⟩
    -- A set that misses the curve is split by it into what is inside and what is outside.
    have hsplit : S ⊆ (K \ curve) ∪ Kᶜ := by
      intro q hq
      by_cases hqK : q ∈ K
      · exact .inl ⟨hqK, hmiss q hq⟩
      · exact .inr hqK
    have hdisjoint : Disjoint (K \ curve) Kᶜ :=
      Set.disjoint_left.2 fun q hq hqK => hqK hq.1
    have hsub : S ⊆ K \ curve :=
      hS.subset_left_of_subset_union hinside hclosed.isOpen_compl hdisjoint hsplit
        ⟨p, hpS, hp, hmiss p hpS⟩
    obtain ⟨r, hr⟩ := hlimited
    exact hfar ⟨r, fun q hq => hr q (hsub hq).1⟩

end Atelier
