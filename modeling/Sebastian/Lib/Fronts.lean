/-
# Fronts that meet

A graph is searched from several sources at once.  Every vertex that is reached keeps
the trail it was reached by, and when an edge joins two trails from different sources
both are recorded.  If the search is left when nothing is unexplored (`Fronts`), then
two sources that are connected are connected through recorded vertices
(`Fronts.connected`): each edge on the way either stays in one front or joins two whose
trails are recorded.
-/

import Mathlib.Data.List.Chain
import Mathlib.Data.Set.Basic

namespace Sebastian

variable {α : Type*}

/-- The edge joins two vertices of the set. -/
def Within (Edge : α → α → Prop) (vertices : Set α) (a b : α) : Prop :=
  Edge a b ∧ a ∈ vertices ∧ b ∈ vertices

/-- **A search from several sources that is over.** -/
structure Fronts (Edge : α → α → Prop) (sources reached recorded : Set α)
    (trail : α → List α) : Prop where
  symm : ∀ a b, Edge a b → Edge b a
  source : ∀ s ∈ sources, s ∈ reached ∧ trail s = [s]
  last : ∀ v ∈ reached, (trail v).getLast? = some v
  chain : ∀ v ∈ reached, (trail v).IsChain Edge
  closed : ∀ v ∈ reached, ∀ w, Edge v w → w ∈ reached
  met : ∀ v ∈ reached, ∀ w, Edge v w → (trail v).head? ≠ (trail w).head? →
    ∀ x ∈ trail v, x ∈ recorded

variable {Edge : α → α → Prop} {sources reached recorded : Set α} {trail : α → List α}

theorem Within.symm (hsymm : ∀ a b, Edge a b → Edge b a) {a b : α} (h : Within Edge recorded a b) :
    Within Edge recorded b a := ⟨hsymm a b h.1, h.2.2, h.2.1⟩

/-- The two ends of a chain of vertices of the set are connected in it. -/
theorem connected_of_chain {l : List α} {a b : α} (hchain : l.IsChain Edge)
    (hmem : ∀ x ∈ l, x ∈ recorded) (ha : l.head? = some a) (hb : l.getLast? = some b) :
    Relation.ReflTransGen (Within Edge recorded) a b := by
  induction l generalizing a with
  | nil => cases ha
  | cons x l ih =>
    cases ha
    cases l with
    | nil =>
      cases hb
      exact .refl
    | cons y l =>
      rw [List.isChain_cons_cons] at hchain
      have hrest := ih hchain.2 (fun z hz => hmem z (List.mem_cons_of_mem _ hz)) rfl
        (by rwa [List.getLast?_cons_cons] at hb)
      exact .head ⟨hchain.1, hmem x List.mem_cons_self, hmem y (by simp)⟩ hrest

theorem Fronts.exists_head (h : Fronts Edge sources reached recorded trail) {v : α}
    (hv : v ∈ reached) : ∃ r, (trail v).head? = some r := by
  cases htrail : trail v with
  | nil =>
    have hlast := h.last v hv
    rw [htrail] at hlast
    cases hlast
  | cons r l => exact ⟨r, rfl⟩

/-- What is connected to a source is reached, and the source is connected through recorded
vertices to the one it was reached from. -/
theorem Fronts.connected_head (h : Fronts Edge sources reached recorded trail) {s v : α}
    (hs : s ∈ sources) (hreach : Relation.ReflTransGen Edge s v) :
    v ∈ reached ∧ ∀ r, (trail v).head? = some r →
      Relation.ReflTransGen (Within Edge recorded) s r := by
  induction hreach with
  | refl =>
    obtain ⟨hreached, htrail⟩ := h.source s hs
    refine ⟨hreached, fun r hr => ?_⟩
    rw [htrail] at hr
    cases hr
    exact .refl
  | @tail v w _ hedge ih =>
    obtain ⟨hv, hconnected⟩ := ih
    have hw := h.closed v hv w hedge
    refine ⟨hw, fun r hr => ?_⟩
    obtain ⟨q, hq⟩ := h.exists_head hv
    have hq' := hconnected q hq
    by_cases hsame : q = r
    · exact hsame ▸ hq'
    · have hne : (trail v).head? ≠ (trail w).head? := by
        rw [hq, hr]
        exact fun he => hsame (Option.some.inj he)
      have hvmem := h.met v hv w hedge hne
      have hwmem := h.met w hw v (h.symm v w hedge) hne.symm
      have hfront := connected_of_chain (h.chain v hv) hvmem hq (h.last v hv)
      have hother := connected_of_chain (h.chain w hw) hwmem hr (h.last w hw)
      have hmeet : Within Edge recorded v w :=
        ⟨hedge, hvmem v (List.mem_of_getLast? (h.last v hv)),
          hwmem w (List.mem_of_getLast? (h.last w hw))⟩
      have hsymm : Std.Symm (Within Edge recorded) := ⟨fun _ _ => Within.symm h.symm⟩
      have hback : Relation.ReflTransGen (Within Edge recorded) w r :=
        Relation.ReflTransGen.stdSymm.symm r w hother
      exact (hq'.trans hfront).trans (.head hmeet hback)

/-- **Sources that are connected are connected through what is recorded.** -/
theorem Fronts.connected (h : Fronts Edge sources reached recorded trail) {s t : α}
    (hs : s ∈ sources) (ht : t ∈ sources) (hreach : Relation.ReflTransGen Edge s t) :
    Relation.ReflTransGen (Within Edge recorded) s t :=
  (h.connected_head hs hreach).2 t (by rw [(h.source t ht).2]; rfl)

theorem Fronts.mem_recorded (h : Fronts Edge sources reached recorded trail) {s t : α}
    (hs : s ∈ sources) (ht : t ∈ sources) (hne : s ≠ t)
    (hreach : Relation.ReflTransGen Edge s t) : s ∈ recorded := by
  rcases Relation.ReflTransGen.cases_head (h.connected hs ht hreach) with rfl | ⟨_, hstep, -⟩
  · exact absurd rfl hne
  · exact hstep.2.1

end Sebastian
