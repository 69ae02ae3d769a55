/-
# Ways through a network without cycles

A network is given by its vertices and by the links taken in a direction, its
darts.  There may be several links between two vertices.  A route (`Route`) is a
way through the network that never turns back on the link it came by.

Without cycles (`Acyclic`) a route comes to no vertex twice
(`Route.nodup_vertices`), and there is one route at most from a vertex to another
(`Route.unique`): two of them would part somewhere, and one way forth and the other
back is a route that comes back.
-/

import Mathlib.Data.List.Induction
import Mathlib.Data.List.Nodup

namespace Sebastian

open List

/-- A network by its darts: a dart leads from a vertex to another, and back. -/
structure Network (V D : Type) where
  src : D → V
  dst : D → V
  rev : D → D
  rev_rev : ∀ d, rev (rev d) = d
  src_rev : ∀ d, src (rev d) = dst d

namespace Network

variable {V D : Type} {G : Network V D} {a b c : V} {d e : D} {l m : List D}

attribute [simp] rev_rev src_rev

@[simp] theorem dst_rev (d : D) : G.dst (G.rev d) = G.src d := by
  rw [← G.src_rev, G.rev_rev]

/-- What follows does not begin with the way back. -/
def Joins (G : Network V D) (l m : List D) : Prop :=
  ∀ d ∈ l.getLast?, ∀ e ∈ m.head?, e ≠ G.rev d

/-- **A route**: a way from a vertex to another that does not turn back. -/
inductive Route (G : Network V D) : V → List D → V → Prop
  | nil (a : V) : Route G a [] a
  | cons {a b : V} {d : D} {l : List D} : G.src d = a → Route G (G.dst d) l b →
      G.Joins [d] l → Route G a (d :: l) b

/-- The vertices that a route comes to, in order. -/
def vertices (G : Network V D) (a : V) (l : List D) : List V := a :: l.map G.dst

/-- **No cycles**: no route comes back to where it began and to no vertex twice. -/
def Acyclic (G : Network V D) : Prop :=
  ∀ a l, G.Route a l a → (l.map G.dst).Nodup → l = []

/-- There is a way between the two. -/
def Connected (G : Network V D) (a b : V) : Prop := ∃ l, G.Route a l b

/-! ### Putting routes together -/

@[simp] theorem joins_nil_left : G.Joins [] m := nofun

@[simp] theorem joins_nil_right : G.Joins l [] := nofun

@[simp] theorem joins_cons_right : G.Joins l (e :: m) ↔ ∀ d ∈ l.getLast?, e ≠ G.rev d :=
  forall₂_congr fun _ _ => ⟨fun h => h e rfl, by rintro h _ ⟨⟩; exact h⟩

@[simp] theorem joins_concat_left : G.Joins (l ++ [d]) m ↔ ∀ e ∈ m.head?, e ≠ G.rev d := by
  unfold Joins
  simp

theorem route_nil_iff : G.Route a [] b ↔ a = b := by
  constructor
  · rintro ⟨⟩
    rfl
  · rintro rfl
    exact .nil a

theorem route_cons_iff : G.Route a (d :: l) b ↔
    G.src d = a ∧ G.Route (G.dst d) l b ∧ G.Joins [d] l := by
  constructor
  · rintro (_ | ⟨hsrc, hroute, hjoins⟩)
    exact ⟨hsrc, hroute, hjoins⟩
  · rintro ⟨hsrc, hroute, hjoins⟩
    exact .cons hsrc hroute hjoins

theorem route_singleton_iff : G.Route a [d] b ↔ G.src d = a ∧ G.dst d = b := by
  rw [route_cons_iff, route_nil_iff, and_iff_left joins_nil_right]

/-- **A route is two routes** that are joined. -/
theorem route_append_iff : G.Route a (l ++ m) c ↔
    ∃ b, G.Route a l b ∧ G.Route b m c ∧ G.Joins l m := by
  induction l generalizing a with
  | nil => simp [route_nil_iff]
  | cons d l ih =>
    rw [cons_append, route_cons_iff, ih]
    cases l with
    | nil => simp [route_cons_iff, route_nil_iff, and_assoc]
    | cons e l =>
      simp only [route_cons_iff, Joins, cons_append, head?_cons,
        getLast?_cons_cons]
      constructor
      · rintro ⟨hsrc, ⟨b, hl, hm, hjoins⟩, hturn⟩
        exact ⟨b, ⟨hsrc, hl, hturn⟩, hm, hjoins⟩
      · rintro ⟨b, ⟨hsrc, hl, hturn⟩, hm, hjoins⟩
        exact ⟨hsrc, ⟨b, hl, hm, hjoins⟩, hturn⟩

theorem route_concat_iff : G.Route a (l ++ [d]) b ↔
    G.Route a l (G.src d) ∧ (∀ e ∈ l.getLast?, d ≠ G.rev e) ∧ G.dst d = b := by
  rw [route_append_iff]
  constructor
  · rintro ⟨c, hl, hd, hjoins⟩
    obtain ⟨rfl, hdst⟩ := route_singleton_iff.1 hd
    exact ⟨hl, joins_cons_right.1 hjoins, hdst⟩
  · rintro ⟨hl, hjoins, hdst⟩
    exact ⟨_, hl, route_singleton_iff.2 ⟨rfl, hdst⟩, joins_cons_right.2 hjoins⟩

/-- **The way back.** -/
theorem Route.reverse (h : G.Route a l b) : G.Route b (l.reverse.map G.rev) a := by
  induction h with
  | nil a => exact .nil a
  | @cons a b d l hsrc _ hjoins ih =>
    rw [reverse_cons, map_append, map_singleton, route_concat_iff]
    refine ⟨by rwa [G.src_rev], fun e he => ?_, by rw [G.dst_rev, hsrc]⟩
    rw [getLast?_map, getLast?_reverse] at he
    obtain ⟨x, hx, rfl⟩ := Option.map_eq_some_iff.1 he
    rw [G.rev_rev]
    exact Ne.symm (hjoins d rfl x hx)

theorem Connected.symm (h : G.Connected a b) : G.Connected b a :=
  h.elim fun _ hl => ⟨_, hl.reverse⟩

/-- **Where there is a way to go on there is a route**: what turns back is left out. -/
theorem Connected.trans (h : G.Connected a b) (h' : G.Connected b c) : G.Connected a c := by
  obtain ⟨l, hl⟩ := h
  obtain ⟨m, hm⟩ := h'
  induction l using reverseRecOn generalizing b m with
  | nil =>
    obtain rfl := route_nil_iff.1 hl
    exact ⟨m, hm⟩
  | append_singleton l d ih =>
    obtain ⟨hl', hturn, rfl⟩ := route_concat_iff.1 hl
    by_cases hjoins : G.Joins (l ++ [d]) m
    · exact ⟨_, route_append_iff.2 ⟨_, hl, hm, hjoins⟩⟩
    · cases m with
      | nil => exact absurd joins_nil_right hjoins
      | cons e m =>
        have he : e = G.rev d := by
          by_contra hne
          exact hjoins (joins_concat_left.2 fun x hx => by
            cases hx
            exact hne)
        subst he
        obtain ⟨-, hm', -⟩ := route_cons_iff.1 hm
        rw [G.dst_rev] at hm'
        exact ih hl' m hm'

/-! ### Without cycles -/

/-- **A route comes to no vertex twice.** -/
theorem Route.nodup_vertices (hacyc : G.Acyclic) (h : G.Route a l b) :
    (G.vertices a l).Nodup := by
  induction l using reverseRecOn generalizing b with
  | nil => exact nodup_singleton _
  | append_singleton l d ih =>
    obtain ⟨hl, hturn, rfl⟩ := route_concat_iff.1 h
    have hnodup := ih hl
    unfold vertices at hnodup ⊢
    rw [map_append, map_singleton, ← cons_append]
    refine nodup_append.2 ⟨hnodup, nodup_singleton _, fun x hx y hy hxy => ?_⟩
    rw [mem_singleton.1 hy] at hxy
    subst hxy
    rcases mem_cons.1 hx with heq | hmem
    · -- back at the beginning
      rw [heq] at h
      refine absurd (hacyc a _ h ?_) (by simp)
      rw [map_append, map_singleton, heq]
      exact nodup_append.2 ⟨hnodup.of_cons, nodup_singleton _, fun x hx y hy hxy =>
        (nodup_cons.1 hnodup).1 (by rwa [← mem_singleton.1 hy, ← hxy])⟩
    · -- back at a vertex on the way
      obtain ⟨e, he, heq⟩ := mem_map.1 hmem
      obtain ⟨l₁, l₂, rfl⟩ := append_of_mem he
      rw [append_assoc, cons_append, route_append_iff] at h
      obtain ⟨c, -, hrest, -⟩ := h
      obtain ⟨-, hback, -⟩ := route_cons_iff.1 hrest
      rw [← heq] at hback
      refine absurd (hacyc _ _ hback ?_) (by simp)
      have hsuffix : (G.dst e :: l₂.map G.dst).Nodup := by
        have := hnodup.of_cons
        rw [map_append, map_cons] at this
        exact (nodup_append.1 this).2.1
      rw [map_append, map_singleton, ← heq]
      exact nodup_append.2 ⟨hsuffix.of_cons, nodup_singleton _, fun x hx y hy hxy =>
        (nodup_cons.1 hsuffix).1 (by rwa [← mem_singleton.1 hy, ← hxy])⟩

/-- **No route comes back.** -/
theorem Route.eq_nil (hacyc : G.Acyclic) (h : G.Route a l a) : l = [] :=
  hacyc a l h (h.nodup_vertices hacyc).of_cons

/-- **There is one route at most** between two vertices. -/
theorem Route.unique (hacyc : G.Acyclic) (h : G.Route a l b) (h' : G.Route a m b) : l = m := by
  induction l generalizing a m with
  | nil =>
    obtain rfl := route_nil_iff.1 h
    exact (h'.eq_nil hacyc).symm
  | cons d l ih =>
    cases m with
    | nil =>
      obtain rfl := route_nil_iff.1 h'
      exact absurd (h.eq_nil hacyc) (by simp)
    | cons e m =>
      by_cases hde : d = e
      · subst hde
        rw [ih (route_cons_iff.1 h).2.1 (route_cons_iff.1 h').2.1]
      · -- back one way and forth the other
        have hback := route_append_iff.2 ⟨a, h.reverse, h', joins_cons_right.2 fun x hx => by
          rw [reverse_cons, map_append, map_singleton, getLast?_concat] at hx
          cases hx
          rw [G.rev_rev]
          exact Ne.symm hde⟩
        exact absurd (hback.eq_nil hacyc) (by simp)

theorem Acyclic.src_ne_dst (hacyc : G.Acyclic) (d : D) : G.src d ≠ G.dst d := fun h =>
  absurd (hacyc (G.src d) [d] (route_singleton_iff.2 ⟨rfl, h.symm⟩) (nodup_singleton _))
    (by simp)

/-! ### Networks given by parents -/

/-- A route that goes deeper once does so to its end, as the way back is the only one up. -/
theorem Route.depth_lt {depth : V → ℕ}
    (hdepth : ∀ d, depth (G.src d) < depth (G.dst d) ∨ depth (G.dst d) < depth (G.src d))
    (hparent : ∀ d e, G.src d = G.src e → depth (G.dst d) < depth (G.src d) →
      depth (G.dst e) < depth (G.src e) → d = e)
    (h : G.Route a (d :: l) b) (hd : depth (G.src d) < depth (G.dst d)) : depth a < depth b := by
  induction l generalizing a d with
  | nil =>
    obtain ⟨rfl, rfl⟩ := route_singleton_iff.1 h
    exact hd
  | cons e l ih =>
    obtain ⟨rfl, hrest, hjoins⟩ := route_cons_iff.1 h
    have hsrc := (route_cons_iff.1 hrest).1
    refine Nat.lt_trans hd (ih hrest ((hdepth e).resolve_right fun hup =>
      hjoins d rfl e rfl (hparent e (G.rev d) ?_ hup ?_)))
    · rw [hsrc, G.src_rev]
    · rwa [G.dst_rev, G.src_rev]

/-- **A network with a depth**, in which every vertex has one dart up at most, has no cycles. -/
theorem acyclic_of_depth (depth : V → ℕ)
    (hdepth : ∀ d, depth (G.src d) < depth (G.dst d) ∨ depth (G.dst d) < depth (G.src d))
    (hparent : ∀ d e, G.src d = G.src e → depth (G.dst d) < depth (G.src d) →
      depth (G.dst e) < depth (G.src e) → d = e) : G.Acyclic := by
  intro a l h hnodup
  clear hnodup
  induction hn : l.length using Nat.strongRecOn generalizing a l with
  | _ n ih =>
    cases l with
    | nil => rfl
    | cons d m =>
      -- the first dart leads up, and so does the last one on the way back
      have hsrc := (route_cons_iff.1 h).1
      have hup := (hdepth d).resolve_left fun hd => Nat.lt_irrefl _ (h.depth_lt hdepth hparent hd)
      rcases eq_nil_or_concat m with rfl | ⟨m, e, rfl⟩
      · obtain ⟨-, hdst⟩ := route_singleton_iff.1 h
        rw [hsrc, hdst] at hup
        exact absurd hup (Nat.lt_irrefl _)
      · rw [concat_eq_append] at h hn
        have hback := h.reverse
        rw [← cons_append, reverse_append, map_append, reverse_singleton,
          map_singleton, singleton_append] at hback
        have hsrc' := (route_cons_iff.1 hback).1
        have hup' := (hdepth (G.rev e)).resolve_left fun hd =>
          Nat.lt_irrefl _ (hback.depth_lt hdepth hparent hd)
        obtain rfl := hparent _ _ (hsrc.trans hsrc'.symm) hup hup'
        -- so that what is between comes back as well, and the two turn back on each other
        obtain ⟨-, hrest, hjoins⟩ := route_cons_iff.1 h
        rw [G.dst_rev] at hrest
        obtain ⟨hmid, -, -⟩ := route_concat_iff.1 hrest
        rw [length_cons, length_append, length_singleton] at hn
        obtain rfl := ih m.length (by omega) _ m hmid rfl
        exact absurd (G.rev_rev e).symm (hjoins _ rfl e rfl)

end Network
end Sebastian
