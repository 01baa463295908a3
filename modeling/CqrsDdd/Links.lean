import Mathlib.Data.List.Nodup
import Mathlib.Data.List.Perm.Basic
import Mathlib.Order.Lattice

/-! Links from a point to a later one, followed until no link starts where one stands.
A single walk over the links in the order of their starts follows the same path, so
that the order in which they came does not matter. -/
namespace CqrsDdd.Links

variable {Link Point : Type} {source target : Link → Point}

/-- The links followed from a point to the first where none starts. -/
inductive Path (source target : Link → Point) (links : List Link) : Point → List Link → Point → Prop
  | done {point : Point} (stuck : ∀ link ∈ links, source link ≠ point) : Path source target links point [] point
  | follow {link : Link} {rest : List Link} {last : Point} (member : link ∈ links)
      (onward : Path source target links (target link) rest last) :
      Path source target links (source link) (link::rest) last

namespace Path

variable {links : List Link} {point last : Point} {followed : List Link}

theorem stuck (path : Path source target links point followed last) : ∀ link ∈ links, source link ≠ last := by
  induction path with
  | done stuck => exact stuck
  | follow _ _ ih => exact ih

theorem of_mem_iff {others : List Link} (same : ∀ link, link ∈ links ↔ link ∈ others)
    (path : Path source target links point followed last) : Path source target others point followed last := by
  induction path with
  | done stuck => exact .done fun link member => stuck link ((same link).mpr member)
  | follow member _ ih => exact .follow ((same _).mp member) ih

theorem unique (distinct : ∀ first ∈ links, ∀ second ∈ links, source first = source second → first = second)
    (path : Path source target links point followed last) {others : List Link} {end_ : Point}
    (other : Path source target links point others end_) : followed = others ∧ last = end_ := by
  induction path generalizing others with
  | done stuck =>
    cases other with
    | done => exact ⟨rfl,rfl⟩
    | follow member => exact absurd rfl (stuck _ member)
  | @follow link rest last member _ ih =>
    generalize start : source link = origin at other
    cases other with
    | done stuck => exact absurd start (stuck link member)
    | @follow second _ _ present onward =>
      obtain rfl := distinct link member second present start
      obtain ⟨same,ends⟩ := ih onward
      exact ⟨congrArg (link::·) same,ends⟩

theorem idle (path : Path source target links point followed last) (stuck : ∀ link ∈ links, source link ≠ point) :
    followed = [] ∧ last = point := by
  cases path with
  | done => exact ⟨rfl,rfl⟩
  | follow member => exact absurd rfl (stuck _ member)

variable [LinearOrder Point]

/-- Where every link leads onward, the links start at the point or behind it, each behind the one before. -/
theorem increasing (forward : ∀ link ∈ links, source link < target link)
    (path : Path source target links point followed last) :
    (∀ link ∈ followed, point ≤ source link) ∧ followed.Pairwise fun first second => source first < source second := by
  induction path with
  | done => exact ⟨fun link member => absurd member List.not_mem_nil,.nil⟩
  | @follow link rest last member _ ih =>
    obtain ⟨behind,ordered⟩ := ih
    have later : ∀ other ∈ rest, source link < source other := fun other inside =>
      (forward link member).trans_le (behind other inside)
    exact ⟨List.forall_mem_cons.mpr ⟨le_rfl,fun other inside => (later other inside).le⟩,.cons later ordered⟩

theorem cons {link : Link} (forward : ∀ link ∈ links, source link < target link) (before : source link < point)
    (path : Path source target links point followed last) : Path source target (link::links) point followed last := by
  induction path with
  | done stuck => exact .done (List.forall_mem_cons.mpr ⟨before.ne,stuck⟩)
  | follow member _ ih => exact .follow (List.mem_cons_of_mem link member) (ih (before.trans (forward _ member)))

end Path

section Pass

variable [DecidableEq Point]

def walk (source target : Link → Point) : List Link → Point → List Link × Point
  | [],point => ([],point)
  | link::rest,point =>
    if source link = point then
      let onward := walk source target rest (target link)
      (link::onward.1,onward.2)
    else walk source target rest point

end Pass

variable [LinearOrder Point] {links : List Link}

theorem distinct_of_sorted (sorted : links.Pairwise fun first second => source first < source second) :
    ∀ first ∈ links, ∀ second ∈ links, source first = source second → first = second := by
  have nodup : (links.map source).Nodup := List.pairwise_map.mpr (sorted.imp ne_of_lt)
  exact fun first inside second present same => List.inj_on_of_nodup_map nodup inside present same

theorem walk_path (sorted : links.Pairwise fun first second => source first < source second)
    (forward : ∀ link ∈ links, source link < target link) (point : Point) :
    Path source target links point (walk source target links point).1 (walk source target links point).2 := by
  induction links generalizing point with
  | nil => exact .done fun link member => absurd member List.not_mem_nil
  | cons link rest ih =>
    obtain ⟨least,sorted⟩ := List.pairwise_cons.mp sorted
    obtain ⟨onward,forward⟩ := List.forall_mem_cons.mp forward
    rw [walk]
    split
    next start =>
      subst start
      exact .follow List.mem_cons_self ((ih sorted forward (target link)).cons forward onward)
    next apart =>
      rcases lt_or_gt_of_ne apart with before | behind
      · exact (ih sorted forward point).cons forward before
      · -- Every link of the rest starts behind the point as well, so that none is followed.
        have stuck : ∀ other ∈ link::rest, source other ≠ point := by
          refine List.forall_mem_cons.mpr ⟨apart,fun other member => ?_⟩
          exact (behind.trans (least other member)).ne'
        have idle := (ih sorted forward point).idle fun other member => stuck other (List.mem_cons_of_mem link member)
        rw [idle.1,idle.2]
        exact .done stuck

end CqrsDdd.Links
