import FleetLocator.Peer.Backend
import FleetLocator.Proofs.Web.Path

/-!
# Whom a request reaches

The path of a request for a driver tells exactly whom it reaches. It is the driver that is meant unless
the identifier is dots or has tabs or line ends in it, or the base of all paths is two slashes.
-/
namespace FleetLocator.Peer

open Service (Reply)
open Web (Scheme Url UrlPath)
open Web.UrlPath (kept)

/-- Whom a request for an identifier reaches: all drivers, what lies above them, or one of them. -/
inductive Addressee
  | collection
  | outside
  | driver (name : String)
  deriving DecidableEq

namespace Addressee

/-- Dots alone are left out. With tabs or line ends among them they are read as steps in the path. -/
def ofId (id : String) : Addressee :=
  if id = "." ∨ id = ".." then collection
  else if kept id = ".." then outside
  else if kept id = "." then driver ""
  else driver (kept id)

/-- The segments of the path to an addressee. -/
def segments (scheme : Scheme) (root : List String) : Addressee → List String
  | collection => root ++ [Endpoint.collection]
  | outside => root ++ [""]
  | driver name => root ++ [Endpoint.collection, UrlPath.written scheme name]

end Addressee

/-- An identifier by which a driver can be reached. -/
def Addressable (id : String) : Prop :=
  (∀ c ∈ id.toList, UrlPath.isIgnored c = false) ∧ id ≠ "." ∧ id ≠ ".."

namespace Endpoint

def segments (e : Endpoint) : List String :=
  match e.base.path with
  | .opaquePath _ => []
  | .segments list => list

/-- The segments of the base, without the last one if it is empty. -/
def stem (e : Endpoint) : List String :=
  if e.segments.getLast? = some "" then e.segments.dropLast else e.segments

/-- The segments that all requests have in common. -/
def root (e : Endpoint) : List String := UrlPath.unrooted (UrlPath.popIfEmpty e.segments)

variable {e : Endpoint} {id : String}

theorem path_base (e : Endpoint) : e.base.path = .segments e.segments := by
  have h := e.divided
  unfold segments
  cases hpath : e.base.path with
  | opaquePath text =>
    rw [hpath] at h
    exact absurd h Bool.false_ne_true
  | segments list => rfl

theorem root_of_two_slashes (h : e.segments = ["", ""]) : e.root = [] ∧ e.stem = [""] := by
  rw [root, stem, h]
  decide

/-- Only two slashes lose more than the last of them. -/
theorem root_eq_stem (h : e.segments ≠ ["", ""]) : e.root = e.stem := by
  unfold root stem UrlPath.popIfEmpty
  generalize e.segments = list at h
  by_cases hlast : list.getLast? = some ""
  · have hlist : list.dropLast ++ [""] = list := List.dropLast_append_getLast? "" hlast
    rw [if_pos hlast]
    by_cases hlength : 1 < list.length
    · rw [if_pos ⟨hlength, hlast⟩]
      have hdrop : list.dropLast ≠ [""] := fun heq => h (by rw [← hlist, heq]; rfl)
      exact if_neg hdrop
    · rw [if_neg fun hboth => hlength hboth.1]
      have hnil : list.dropLast = [] := by
        rw [← List.length_eq_zero_iff, List.length_dropLast]
        omega
      rw [hnil] at hlist ⊢
      rw [← hlist]
      rfl
  · rw [if_neg hlast, if_neg fun hboth => hlast hboth.2]
    exact if_neg fun heq => hlast (by rw [heq]; rfl)

theorem appendSegments_path (e : Endpoint) (texts : List String) :
    (e.base.appendSegments (collection :: texts)).path =
      .segments (texts.foldl (UrlPath.appendSegment e.base.scheme) (e.root ++ [collection])) := by
  have hword : collection ∈ UrlPath.words := by decide
  rw [Url.appendSegments, path_base, UrlPath.append, List.foldl_cons, UrlPath.appendSegment_word hword]
  rfl

theorem leave_collection (root : List String) : UrlPath.leave (root ++ [collection]) = root := by
  have hdrive : UrlPath.holdsDrive collection = false := by decide
  simp [UrlPath.leave, hdrive]

theorem path_driver (e : Endpoint) (id : String) :
    (e.driver id).path = .segments ((Addressee.ofId id).segments e.base.scheme e.root) := by
  have hnil : e.root ++ [collection] ≠ [] := by simp
  have hroot : e.root ++ [collection] ≠ [""] := fun h => absurd (congrArg List.getLast? h) (by simp [collection])
  rw [driver, appendSegments_path, List.foldl_cons, List.foldl_nil, UrlPath.appendSegment_eq hnil hroot,
    leave_collection, Addressee.ofId]
  split_ifs
  · rfl
  · rfl
  · rw [List.append_assoc]
    rfl
  · rw [List.append_assoc]
    rfl

theorem path_update (e : Endpoint) (id : String) (kind : Driver.ChangeKind) :
    (e.update id kind).path = .segments
      (UrlPath.unrooted ((Addressee.ofId id).segments e.base.scheme e.root) ++ [kind.label]) := by
  have hdriver := path_driver e id
  rw [driver, appendSegments_path] at hdriver
  have hword : kind.label ∈ UrlPath.words := by cases kind <;> decide
  rw [update, appendSegments_path, List.foldl_cons, ← UrlPath.segments.inj hdriver, List.foldl_cons,
    List.foldl_nil, UrlPath.appendSegment_word hword]
  rfl

theorem path_search (e : Endpoint) (q : Search.Query) :
    (e.search q).path = .segments ((Addressee.driver "nearby").segments e.base.scheme e.root) := by
  have hdriver := path_driver e "nearby"
  exact hdriver

end Endpoint

namespace Addressee

variable {scheme : Scheme} {root : List String}

theorem segments_ne_nil (a : Addressee) : a.segments scheme root ≠ [] := by
  cases a <;> simp [segments]

/-- Requests for different addressees have different paths. -/
theorem segments_injective : Function.Injective (segments scheme root) := by
  intro a b h
  cases a with
  | collection => cases b <;> simp_all [segments, Endpoint.collection]
  | outside => cases b <;> simp_all [segments, Endpoint.collection]
  | driver name =>
    cases b with
    | collection => simp_all [segments]
    | outside => simp_all [segments]
    | driver other =>
      have hwritten : UrlPath.written scheme name = UrlPath.written scheme other := by simpa [segments] using h
      rw [UrlPath.written_injective scheme hwritten]

theorem segments_eq_iff {a : Addressee} {segment : String} :
    a.segments scheme root = root ++ [Endpoint.collection, segment] ↔
      ∃ name, a = driver name ∧ segment = UrlPath.written scheme name := by
  cases a with
  | collection => simp [segments]
  | outside => simp [segments]
  | driver name => simp [segments, eq_comm]

theorem ofId_eq_driver_self_iff {id : String} : ofId id = driver id ↔ Addressable id := by
  rw [Addressable, ← UrlPath.kept_eq_self_iff]
  unfold ofId
  constructor
  · intro h
    split_ifs at h with hdots hdouble hdot
    · cases h
      exact absurd hdot (by decide)
    · exact ⟨driver.inj h, not_or.mp hdots⟩
  · rintro ⟨hkept, hdot, hdouble⟩
    rw [if_neg (not_or.mpr ⟨hdot, hdouble⟩), hkept, if_neg hdouble, if_neg hdot]

/-- A driver with the identifier is reached if the segment for it spells it. -/
theorem exists_segment_iff {id : String} :
    (∃ segment, Url.spelled segment = some id ∧
      (ofId id).segments scheme root = root ++ [Endpoint.collection, segment]) ↔ Addressable id := by
  rw [← ofId_eq_driver_self_iff]
  constructor
  · rintro ⟨segment, hspelled, hsegments⟩
    obtain ⟨name, hname, rfl⟩ := segments_eq_iff.mp hsegments
    rw [UrlPath.spelled_written] at hspelled
    rw [hname, Option.some.inj hspelled]
  · intro h
    exact ⟨_, UrlPath.spelled_written scheme id, segments_eq_iff.mpr ⟨id, h, rfl⟩⟩

/-- Behind a base of two slashes no driver is reached. -/
theorem segments_nil_ne (a : Addressee) (segment : String) :
    a.segments scheme [] ≠ "" :: [Endpoint.collection, segment] := by
  cases a <;> simp [segments]

end Addressee

namespace Endpoint

theorem driver_faithful_iff (e : Endpoint) {id : String} :
    (∃ segment, Url.spelled segment = some id ∧
      (e.driver id).path = .segments (e.stem ++ [collection, segment])) ↔
      e.segments ≠ ["", ""] ∧ Addressable id := by
  by_cases hbase : e.segments = ["", ""]
  · obtain ⟨hroot, hstem⟩ := root_of_two_slashes hbase
    refine iff_of_false ?_ fun h => h.1 hbase
    rintro ⟨segment, -, hpath⟩
    rw [path_driver, hroot, hstem] at hpath
    exact Addressee.segments_nil_ne _ segment (UrlPath.segments.inj hpath)
  · simp only [path_driver, UrlPath.segments.injEq, ← root_eq_stem hbase, Addressee.exists_segment_iff, ne_eq,
      hbase, not_false_eq_true, true_and]

theorem update_faithful_iff (e : Endpoint) {id : String} {kind : Driver.ChangeKind} :
    (∃ segment, Url.spelled segment = some id ∧
      (e.update id kind).path = .segments (e.stem ++ [collection, segment, kind.label])) ↔
      e.segments ≠ ["", ""] ∧ Addressable id := by
  rw [← driver_faithful_iff]
  refine exists_congr fun segment => and_congr_right fun _ => ?_
  have hsplit : e.stem ++ [collection, segment, kind.label] =
      (e.stem ++ [collection, segment]) ++ [kind.label] := by simp
  have hroot : e.stem ++ [collection, segment] ≠ [""] := fun h => absurd (congrArg List.length h) (by simp)
  rw [path_update, path_driver, UrlPath.segments.injEq, UrlPath.segments.injEq, hsplit, List.append_singleton_inj,
    UrlPath.unrooted_eq_iff (by simp) hroot, eq_self_iff_true, and_true]

theorem driver_path_eq_iff (e : Endpoint) {id other : String} :
    (e.driver id).path = (e.driver other).path ↔ Addressee.ofId id = Addressee.ofId other := by
  rw [path_driver, path_driver, UrlPath.segments.injEq, Addressee.segments_injective.eq_iff]

theorem update_path_eq_iff (e : Endpoint) {id other : String} {kind otherKind : Driver.ChangeKind} :
    (e.update id kind).path = (e.update other otherKind).path ↔
      Addressee.ofId id = Addressee.ofId other ∧ kind = otherKind := by
  have hlabel : Function.Injective Driver.ChangeKind.label := fun k l h => by
    cases k <;> cases l <;> first | rfl | exact absurd h (by decide)
  rw [path_update, path_update, UrlPath.segments.injEq, List.append_singleton_inj, hlabel.eq_iff,
    UrlPath.unrooted_inj (Addressee.segments_ne_nil _) (Addressee.segments_ne_nil _),
    Addressee.segments_injective.eq_iff]

theorem driver_path_eq_search_iff (e : Endpoint) {id : String} {q : Search.Query} :
    (e.driver id).path = (e.search q).path ↔ Addressee.ofId id = .driver "nearby" := by
  rw [path_driver, path_search, UrlPath.segments.injEq, Addressee.segments_injective.eq_iff]

end Endpoint

/-- The network, which also lists what it carries. -/
def recorded {σ : Type} (network : Network σ) : Network (σ × List Request) := fun r s =>
  ((network r s.1).1, ((network r s.1).2, s.2 ++ [r]))

section

variable {σ : Type} (network : Network σ)

theorem ask_recorded {α : Type} (r : Request) (read : Answer → Except Service.Fault α) (s : σ × List Request) :
    (ask (recorded network) r read s).2.2 = s.2 ++ if r.address.isWeb then [r] else [] := by
  simp only [ask, send]
  split
  · rfl
  · exact (List.append_nil s.2).symm

end

/-- What is known of the requests for drivers behind an endpoint. They can only be sent to the web. They
reach the driver that is meant just if its identifier can be addressed and the base is not two slashes, and
their paths are the same just if they reach the same. -/
structure Addressing {σ : Type} (e : Endpoint) (network : Network σ) : Prop where
  fetch : ∀ id s, ((backend e (recorded network)).fetch id s).2.2 =
    s.2 ++ if (e.driver id).isWeb then [{ method := .get, address := e.driver id }] else []
  apply : ∀ id u s, ((backend e (recorded network)).apply id u s).2.2 =
    s.2 ++ if (e.update id u.change.kind).isWeb then
      [{ method := .put, address := e.update id u.change.kind, body := some u.change.encode }] else []
  driver : ∀ id, (∃ segment, Url.spelled segment = some id ∧
      (e.driver id).path = .segments (e.stem ++ ["drivers", segment])) ↔
    e.segments ≠ ["", ""] ∧ Addressable id
  update : ∀ id kind, (∃ segment, Url.spelled segment = some id ∧
      (e.update id kind).path = .segments (e.stem ++ ["drivers", segment, kind.label])) ↔
    e.segments ≠ ["", ""] ∧ Addressable id
  addressable : ∀ id, Addressee.ofId id = .driver id ↔ Addressable id
  driver_eq : ∀ id other, (e.driver id).path = (e.driver other).path ↔
    Addressee.ofId id = Addressee.ofId other
  update_eq : ∀ id other kind otherKind, (e.update id kind).path = (e.update other otherKind).path ↔
    Addressee.ofId id = Addressee.ofId other ∧ kind = otherKind
  search_eq : ∀ id q, (e.driver id).path = (e.search q).path ↔ Addressee.ofId id = .driver "nearby"

theorem addressing {σ : Type} (e : Endpoint) (network : Network σ) : Addressing e network where
  fetch _ := ask_recorded network _ _
  apply _ _ := ask_recorded network _ _
  driver _ := e.driver_faithful_iff
  update _ _ := e.update_faithful_iff
  addressable _ := Addressee.ofId_eq_driver_self_iff
  driver_eq _ _ := e.driver_path_eq_iff
  update_eq _ _ _ _ := e.update_path_eq_iff
  search_eq _ _ := e.driver_path_eq_search_iff

/-- A tab in an identifier leads to another driver, and one driver is taken for the search. -/
theorem driver_path_of_tab :
    ∃ e, Endpoint.ofText "http://h" = .ok e ∧ Text.trim "a\tb" = "a\tb" ∧
      (¬∃ segment, Url.spelled segment = some "a\tb" ∧
        (e.driver "a\tb").path = .segments (e.stem ++ ["drivers", segment])) ∧
      (e.driver "a\tb").path = (e.driver "ab").path ∧
      ∀ q, (e.driver "nearby").path = (e.search q).path := by
  refine ⟨⟨{ scheme := "http", host := some "h", path := .segments [""] }, rfl⟩, rfl, by decide, ?_, by decide, ?_⟩
  · exact mt (Endpoint.driver_faithful_iff _).mp fun h => absurd (h.2.1 '\t' (by decide)) (by decide)
  · intro q
    rfl

end FleetLocator.Peer
