import Mathlib.Data.Bool.AllAny
import StationGateway.Proofs.Config.Constraint
import StationGateway.Proofs.Handshake.Decision
import StationGateway.Proofs.Http.Literal

/-!
# The address that is advertised

Charge points are told to connect to an address that is made of the settings and their identity. Settings that are
accepted have a path that begins with a slash and a parameter that is not blank, and no more is asked of them.

**The law** (`accept_target_iff`): the target, taken apart at the first question mark and the next `#`, leads to
the identity that it was made for exactly if the path has no question mark and the parameter is a name that is
read as itself. Otherwise it leads to none: a target with a path that ends too early is for another path, and one
whose parameter is cut or read as something else names no charge point. A request with such a target comes as
far as that only if its characters may stand in a target (`Config.IsWritable`) and it is not too long.
-/

namespace StationGateway

/-- The target of the request that a charge point is told to make. -/
def Config.target (c : Config) (id : String) : String :=
  c.server.path ++ "?" ++ c.server.identityParameter ++ "=" ++ id

/-- The query of the target: what is behind the path and the question mark, up to a `#`. -/
def Config.targetQuery (c : Config) (id : String) : List Char :=
  (c.server.identityParameter.toList ++ '=' :: id.toList).takeWhile (· ≠ '#')

/-- The path and the parameter can be written into a target as they are. -/
structure Config.IsWritable (c : Config) : Prop where
  path : ∀ ch ∈ c.server.path.toList, Uri.isPathChar ch = true
  parameter : ∀ ch ∈ c.server.identityParameter.toList, Uri.isQueryChar ch = true
  isName : Query.IsName c.server.identityParameter.toList

namespace Uri

/-- A target as it is taken apart, whatever characters stand in it. -/
def ofTarget (s : String) : Uri :=
  let (path, rest) := Text.splitFirst '?' s.toList
  ⟨String.ofList path, rest.map fun cs => String.ofList (cs.takeWhile (· ≠ '#'))⟩

/-! ## Targets with a path -/

variable {s : String} {uri : Uri} {path more : List Char} {query : Option (List Char)}

/-- A target that begins with a slash is read as a path with a query. -/
theorem parse?_eq_some_iff {rest : List Char} (h : s.toList = '/' :: rest) : parse? s = some uri ↔
    s.utf8ByteSize ≤ maxLength ∧
      ∃ path query, pathAndQuery s.toList = some (path, query) ∧ ofParts path query = uri := by
  rw [parse?]
  split
  · next hlong => exact iff_of_false (fun hnone => nomatch hnone) fun ⟨hshort, _⟩ => by omega
  · next hshort =>
    rw [h]
    show ((pathAndQuery ('/' :: rest)).bind fun (path, query) => some (ofParts path query)) = some uri ↔ _
    rw [Option.bind_eq_some_iff]
    constructor
    · rintro ⟨⟨path, query⟩, hread, huri⟩
      exact ⟨Nat.le_of_not_lt hshort, path, query, hread, Option.some.inj huri⟩
    · rintro ⟨-, path, query, hread, huri⟩
      exact ⟨(path, query), hread, congrArg some huri⟩

theorem ne_of_isPathChar {c : Char} (h : isPathChar c = true) : c ≠ '?' ∧ c ≠ '#' := by
  constructor
  · rintro rfl
    exact absurd h (by decide)
  · rintro rfl
    exact absurd h (by decide)

theorem isPathChar_of_pathAndQuery {cs : List Char} (h : pathAndQuery cs = some (path, query)) :
    ∀ c ∈ path, isPathChar c = true := by
  simp only [pathAndQuery] at h
  split at h
  · cases h
  · next hall =>
    have hpath : path = cs.takeWhile fun c => c ≠ '?' && c ≠ '#' := by
      split at h
      · split at h
        · exact (congrArg Prod.fst (Option.some.inj h)).symm
        · cases h
      · exact (congrArg Prod.fst (Option.some.inj h)).symm
    rw [Bool.not_eq_true', Bool.not_eq_false, ← hpath] at hall
    exact List.all_eq_true.mp hall

/-- Behind a path and a question mark stands the query, up to a `#`. -/
theorem pathAndQuery_append (hpath : ∀ c ∈ path, isPathChar c = true) (more : List Char) :
    pathAndQuery (path ++ '?' :: more) =
      if (more.takeWhile (· ≠ '#')).all isQueryChar then some (path, some (more.takeWhile (· ≠ '#')))
      else none := by
  have hends : ∀ c ∈ path, (c ≠ '?' && c ≠ '#') = true := by
    intro c hc
    obtain ⟨hquestion, hhash⟩ := ne_of_isPathChar (hpath c hc)
    simp [hquestion, hhash]
  have htake : (path ++ '?' :: more).takeWhile (fun c => c ≠ '?' && c ≠ '#') = path := by
    rw [List.takeWhile_append_of_pos hends, List.takeWhile_cons_of_neg (by decide), List.append_nil]
  have hall : path.all isPathChar = true := List.all_eq_true.mpr hpath
  simp only [pathAndQuery, htake, hall, List.drop_left]
  rfl

theorem pathAndQuery_eq_some_iff : pathAndQuery (path ++ '?' :: more) = some (path, query) ↔
    (∀ c ∈ path, isPathChar c = true) ∧ (∀ c ∈ more.takeWhile (· ≠ '#'), isQueryChar c = true) ∧
      query = some (more.takeWhile (· ≠ '#')) := by
  constructor
  · intro h
    have hpath := isPathChar_of_pathAndQuery h
    rw [pathAndQuery_append hpath, Option.ite_none_right_eq_some, List.all_eq_true] at h
    obtain ⟨hquery, h⟩ := h
    exact ⟨hpath, hquery, (congrArg Prod.snd (Option.some.inj h)).symm⟩
  · rintro ⟨hpath, hquery, rfl⟩
    rw [pathAndQuery_append hpath, if_pos (List.all_eq_true.mpr hquery)]

end Uri

namespace Handshake

/-- A character that stands for itself wherever it is put in an address: a letter or a digit, a character beyond
ASCII, or one of four marks. -/
def IsUnreserved (c : Char) : Prop :=
  c.isAlphanum = true ∨ 0x80 ≤ c.toNat ∨ c ∈ ['-', '.', '_', '~']

instance : DecidablePred IsUnreserved :=
  fun _ => inferInstanceAs (Decidable (_ ∨ _ ∨ _))

/-- Where the characters lie that are unreserved in ASCII. -/
theorem toNat_of_isUnreserved {c : Char} (h : IsUnreserved c) :
    0x80 ≤ c.toNat ∨ 0x30 ≤ c.toNat ∧ c.toNat ≤ 0x39 ∨ 0x41 ≤ c.toNat ∧ c.toNat ≤ 0x5A ∨
      0x61 ≤ c.toNat ∧ c.toNat ≤ 0x7A ∨ c.toNat ∈ [0x2D, 0x2E, 0x5F, 0x7E] := by
  rcases h with hletter | hbeyond | hmark
  · have hletter : ((c.isUpper || c.isLower) || c.isDigit) = true := hletter
    rw [Bool.or_eq_true, Bool.or_eq_true] at hletter
    rcases hletter with (hupper | hlower) | hdigit
    · exact .inr (.inr (.inl (of_decide_eq_true hupper)))
    · obtain ⟨hleast, hmost⟩ := Bool.and_eq_true_iff.mp hlower
      exact .inr (.inr (.inr (.inl ⟨of_decide_eq_true hleast, of_decide_eq_true hmost⟩)))
    · obtain ⟨hleast, hmost⟩ := Bool.and_eq_true_iff.mp hdigit
      exact .inr (.inl ⟨of_decide_eq_true hleast, of_decide_eq_true hmost⟩)
  · exact .inl hbeyond
  · exact .inr (.inr (.inr (.inr (List.mem_map_of_mem (f := Char.toNat) hmark))))

theorem isQueryChar_of_isUnreserved {c : Char} (h : IsUnreserved c) : Uri.isQueryChar c = true := by
  have hplace := toNat_of_isUnreserved h
  simp only [List.mem_cons, List.not_mem_nil, or_false] at hplace
  simp only [Uri.isQueryChar, Bool.or_eq_true, Bool.and_eq_true, decide_eq_true_eq, beq_iff_eq]
  omega

theorem not_mem_of_isUnreserved {cs : List Char} (h : ∀ c ∈ cs, IsUnreserved c) {d : Char}
    (hd : d ∈ ['#', '%', '&', '+', '=']) : d ∉ cs := by
  intro hmem
  have hplace := toNat_of_isUnreserved (h d hmem)
  have hnumber : d.toNat ∈ [0x23, 0x25, 0x26, 0x2B, 0x3D] := List.mem_map_of_mem (f := Char.toNat) hd
  simp only [List.mem_cons, List.not_mem_nil, or_false] at hplace hnumber
  omega

/-- An identity of unreserved characters is written as it is. -/
theorem isValue_of_isUnreserved {cs : List Char} (h : ∀ c ∈ cs, IsUnreserved c) : Query.IsValue cs where
  no_end := ⟨not_mem_of_isUnreserved h (by decide), not_mem_of_isUnreserved h (by decide)⟩
  literal := Query.isLiteral_of_not_mem (not_mem_of_isUnreserved h (by decide))
    (not_mem_of_isUnreserved h (by decide))

section Targets

variable {c : Config} {id : String}

theorem toList_target (c : Config) (id : String) : (c.target id).toList =
    c.server.path.toList ++ '?' :: (c.server.identityParameter.toList ++ '=' :: id.toList) := by
  simp [Config.target]

/-- The target is read as the path and a query exactly if both can stand in a target. -/
theorem parse?_target_iff (hslash : ∃ rest, c.server.path.toList = '/' :: rest) {query : Option String} :
    Uri.parse? (c.target id) = some ⟨c.server.path, query⟩ ↔
      (c.target id).utf8ByteSize ≤ Uri.maxLength ∧ (∀ ch ∈ c.server.path.toList, Uri.isPathChar ch = true) ∧
        (∀ ch ∈ c.targetQuery id, Uri.isQueryChar ch = true) ∧
          query = some (String.ofList (c.targetQuery id)) := by
  obtain ⟨rest, hslash⟩ := hslash
  rw [Uri.parse?_eq_some_iff (by rw [toList_target, hslash]; rfl), toList_target]
  refine and_congr_right fun _ => ?_
  have hparts (path : List Char) (q : Option (List Char)) : Uri.ofParts path q = ⟨c.server.path, query⟩ ↔
      (if path = [] then "/" else String.ofList path) = c.server.path ∧ q.map String.ofList = query := by
    rw [Uri.ofParts, Uri.mk.injEq]
  constructor
  · rintro ⟨path, q, hread, huri⟩
    obtain ⟨hpath, rfl⟩ := (hparts path q).mp huri
    obtain rfl : path = c.server.path.toList := by
      split at hpath
      -- a path that begins with a slash is not read as empty
      · next hempty =>
        have hroot : ∀ ch ∈ "/".toList, Uri.isPathChar ch = true := List.all_eq_true.mp (by decide)
        rw [hempty, ← hpath, Uri.pathAndQuery_append hroot, Option.ite_none_right_eq_some] at hread
        cases (congrArg Prod.fst (Option.some.inj hread.2))
      · rw [← hpath, String.toList_ofList]
    obtain ⟨hpath, hquery, rfl⟩ := Uri.pathAndQuery_eq_some_iff.mp hread
    exact ⟨hpath, hquery, rfl⟩
  · rintro ⟨hpath, hquery, rfl⟩
    refine ⟨_, _, Uri.pathAndQuery_eq_some_iff.mpr ⟨hpath, hquery, rfl⟩, (hparts _ _).mpr ⟨?_, rfl⟩⟩
    rw [if_neg (by rw [hslash]; exact List.cons_ne_nil _ _), String.ofList_toList]

theorem path_ofTarget (c : Config) (id : String) :
    (Uri.ofTarget (c.target id)).path = c.server.path ↔ '?' ∉ c.server.path.toList := by
  rw [← Query.takeWhile_ne_eq_self_iff, ← String.toList_inj]
  show (String.ofList ((c.target id).toList.takeWhile (· ≠ '?'))).toList = _ ↔ _
  rw [String.toList_ofList, toList_target, Query.takeWhile_ne_append]

theorem query_ofTarget (hpath : '?' ∉ c.server.path.toList) (id : String) :
    (Uri.ofTarget (c.target id)).query = some (String.ofList (c.targetQuery id)) := by
  rw [Uri.ofTarget, toList_target, Text.splitFirst_append hpath]
  rfl

/-- What is found in the query of the target. -/
theorem identity?_target (hid : id ≠ "") (hchars : ∀ ch ∈ id.toList, IsUnreserved ch) {found : String} :
    identity? (some (String.ofList (c.targetQuery id))) c.server.identityParameter = some found ↔
      Query.IsName c.server.identityParameter.toList ∧ found = id := by
  have hne : id.toList ≠ [] := fun h => hid (by rw [← String.ofList_toList (s := id), h])
  have hread : Query.value? _ (String.ofList c.server.identityParameter.toList) = some found ↔ _ :=
    Query.value?_eq_some_iff (isValue_of_isUnreserved hchars) hne
  rw [String.ofList_toList, String.ofList_toList] at hread
  rw [identity?, Option.bind_some, String.toList_ofList]
  exact hread

end Targets

/-- **The address that is advertised leads to its identity exactly if it can be written as it is.** For settings
that are accepted and every identity of unreserved characters:

- the target, taken apart, is accepted for an identity exactly if this is the one that it was made for, there is no
  question mark in the path, and the parameter is a name that is read as itself;
- a request with the target is accepted for an identity exactly if this is the one that it was made for, the path
  and the parameter can be written into a target as they are, and the target is not too long. -/
theorem accept_target_iff {c : Config} (hvalid : c.validate = .ok ()) {id : String} (hid : id ≠ "")
    (hchars : ∀ ch ∈ id.toList, IsUnreserved ch) (protocols : List String) (response : Headers) (found : String) :
    ((∃ headers, accept (Uri.ofTarget (c.target id)) protocols response c.server.path
          c.server.identityParameter = .ok (found, headers)) ↔
        found = id ∧ '?' ∉ c.server.path.toList ∧ Query.IsName c.server.identityParameter.toList) ∧
      ((∃ uri headers, Uri.parse? (c.target id) = some uri ∧
          accept uri protocols response c.server.path c.server.identityParameter = .ok (found, headers)) ↔
        found = id ∧ c.IsWritable ∧ (c.target id).utf8ByteSize ≤ Uri.maxLength) := by
  have hslash : ∃ rest, c.server.path.toList = '/' :: rest :=
    Config.validate_eq_ok_iff.mp hvalid _ List.mem_cons_self
  have hvalue := isValue_of_isUnreserved hchars
  have haccepted (uri : Uri) :
      (∃ headers, accept uri protocols response c.server.path c.server.identityParameter = .ok (found, headers)) ↔
        uri.path = c.server.path ∧ identity? uri.query c.server.identityParameter = some found :=
    (decides_accept uri protocols response _ _).accepted_iff
  constructor
  · rw [haccepted, path_ofTarget]
    constructor
    · rintro ⟨hpath, hfound⟩
      rw [query_ofTarget hpath, identity?_target hid hchars] at hfound
      exact ⟨hfound.2, hpath, hfound.1⟩
    · rintro ⟨hfound, hpath, hname⟩
      rw [query_ofTarget hpath, identity?_target hid hchars]
      exact ⟨hpath, hname, hfound⟩
  · constructor
    · rintro ⟨⟨path, query⟩, headers, hparse, haccept⟩
      obtain ⟨rfl, hfound⟩ := (haccepted _).mp ⟨headers, haccept⟩
      obtain ⟨hlength, hpath, hquery, rfl⟩ := (parse?_target_iff hslash).mp hparse
      obtain ⟨hname, rfl⟩ := (identity?_target hid hchars).mp hfound
      rw [Config.targetQuery, Query.takeWhile_whole hname hvalue] at hquery
      exact ⟨rfl, ⟨hpath, fun ch hch => hquery ch (List.mem_append_left _ hch), hname⟩, hlength⟩
    · rintro ⟨rfl, ⟨hpath, hparameter, hname⟩, hlength⟩
      have hquery : ∀ ch ∈ c.targetQuery found, Uri.isQueryChar ch = true := by
        intro ch hch
        rcases List.mem_append.mp ((List.takeWhile_sublist _).subset hch) with hch | hch
        · exact hparameter ch hch
        · rcases List.mem_cons.mp hch with rfl | hch
          · rfl
          · exact isQueryChar_of_isUnreserved (hchars ch hch)
      have hparse := (parse?_target_iff hslash).mpr ⟨hlength, hpath, hquery, rfl⟩
      obtain ⟨headers, haccept⟩ := (haccepted ⟨c.server.path, _⟩).mpr
        ⟨rfl, (identity?_target hid hchars).mpr ⟨hname, rfl⟩⟩
      exact ⟨_, headers, hparse, haccept⟩

/-- The address that is advertised with the built-in settings leads to its identity. -/
theorem accept_target_iff_default :
    ∃ uri headers, Uri.parse? (Config.target {} "CP-1") = some uri ∧
      accept uri [] [] "/ws" "id" = .ok ("CP-1", headers) := by
  have hwritable : Config.IsWritable {} := {
    path := List.all_eq_true.mp (by decide)
    parameter := List.all_eq_true.mp (by decide)
    isName := ⟨by decide, Query.isLiteral_of_not_mem (by decide) (by decide)⟩ }
  have hvalid : Config.validate {} = .ok () := by decide +kernel
  exact (accept_target_iff hvalid (by decide) (List.all_iff_forall_prop.mp (by decide)) [] [] "CP-1").2.mpr
    ⟨rfl, hwritable, by decide +kernel⟩

/-- A path with a question mark is accepted in the settings, and the address that is advertised with it is turned
away as one for another path. -/
theorem accept_target_questionMark :
    let c : Config := { server := { path := "/ws?v=1" } }
    c.validate = .ok () ∧ c.target "CP-1" = "/ws?v=1?id=CP-1" ∧
      Uri.parse? (c.target "CP-1") = some ⟨"/ws", some "v=1?id=CP-1"⟩ ∧
      accept ⟨"/ws", some "v=1?id=CP-1"⟩ [] [] c.server.path c.server.identityParameter =
        .error .unknownPath := by
  decide +kernel

end Handshake

end StationGateway
