import FieldSearch.Postgres.Options
import FieldSearch.Proofs.Number.Digits
import Mathlib

/-!
# Connection URLs and their parts

A URL is cut at an at sign, then at a slash, and both of its sides at a colon, each time at
the first one.  `UrlParts` are the parts that come out, as they are written: a part is
absent if the mark that belongs to it is, and it may be empty behind its mark.  Parts are
written in a URL if no mark stands where a cut would fall before its place, and then there
is no other way to read the URL.  Every URL has such parts.

An absent part keeps its default.  A part that is empty behind its mark does not, except for
the port, and for the host where no port is written.

## Main results

* `ofUrl_of_written`: the options of a URL are those of its parts.
* `exists_writtenIn`: every URL has just one way to be read.
* `reads_back_parts`: parts that are written out are read again.
* `empty_parts_of_url`: which parts come out empty.
-/

namespace FieldSearch.Text

/-- A part with the mark in front of it, or nothing without the part. -/
def behind (mark : Char) : Option String → String
  | none => ""
  | some part => String.singleton mark ++ part

theorem mem_behind {mark c : Char} {part : Option String} :
    c ∈ (behind mark part).toList ↔ ∃ text, part = some text ∧ (c = mark ∨ c ∈ text.toList) := by
  cases part <;> simp [behind]

/-- A text is cut at the first mark, and at none where the part behind it is absent. -/
theorem cut?_behind {mark : Char} {front : String} (h : mark ∉ front.toList)
    (part : Option String) :
    cut? (front ++ behind mark part) mark = part.map fun back => (front, back) := by
  cases part with
  | none =>
      rw [behind, String.append_empty]
      exact cut?_eq_none_iff.mpr h
  | some back =>
      refine cut?_eq_some_iff.mpr ⟨?_, h⟩
      simp [behind]

/-- Every text is one without the mark and a part behind it. -/
theorem exists_behind (mark : Char) (text : String) :
    ∃ front part, text = front ++ behind mark part ∧ mark ∉ front.toList := by
  cases hCut : cut? text mark with
  | none => exact ⟨text, none, by rw [behind, String.append_empty], cut?_eq_none_iff.mp hCut⟩
  | some sides =>
      obtain ⟨front, back⟩ := sides
      obtain ⟨hText, hFront⟩ := cut?_eq_some_iff.mp hCut
      refine ⟨front, some back, String.toList_inj.mp ?_, hFront⟩
      simp [behind, hText]

end FieldSearch.Text

namespace FieldSearch.Postgres

open Text (behind cut?_behind exists_behind)

/-! ## Parts -/

/-- The parts of a connection URL as they are written behind its scheme. -/
structure UrlParts where
  /-- The user, and the password if there is one. -/
  user : Option (String × Option String) := none
  host : String
  port : Option String := none
  dbname : Option String := none
deriving DecidableEq, Repr

namespace UrlParts

/-- User and password in front of their at sign. -/
def credentials : Option (String × Option String) → String
  | none => ""
  | some (name, password) => name ++ behind ':' password ++ "@"

/-- Host and port. -/
def address (parts : UrlParts) : String := parts.host ++ behind ':' parts.port

/-- What stands behind the at sign, or everything without one. -/
def location (parts : UrlParts) : String := parts.address ++ behind '/' parts.dbname

/-- The parts in their places. -/
def written (parts : UrlParts) : String := credentials parts.user ++ parts.location

/-- No mark stands where a cut would fall before its place. -/
structure Separated (parts : UrlParts) : Prop where
  user : ∀ name password, parts.user = some (name, password) →
    ':' ∉ name.toList ∧ '@' ∉ (name ++ behind ':' password).toList
  noUser : parts.user = none → '@' ∉ parts.location.toList
  host : ':' ∉ parts.host.toList
  address : '/' ∉ parts.address.toList

/-- The options that the parts give: what is absent keeps its default, and so does a host that is
empty and has no port. -/
def options (parts : UrlParts) : Options :=
  let defaults : Options := {}
  { user := (parts.user.map Prod.fst).getD defaults.user
    password := parts.user.bind Prod.snd
    host := if parts.host = "" ∧ parts.port = none then defaults.host else parts.host
    port := (parts.port.map (Options.naturalOr Number.maxNat16 defaults.port)).getD defaults.port
    dbname := parts.dbname.getD defaults.dbname }

/-- The two ways to write the scheme. -/
def schemes : List String := ["postgres://", "postgresql://"]

/-- The parts are those of a URL, behind its scheme if it has one. -/
structure WrittenIn (parts : UrlParts) (url : String) : Prop where
  separated : parts.Separated
  placed : (∃ scheme ∈ schemes, url = scheme ++ parts.written) ∨
    (∀ scheme ∈ schemes, ¬ scheme.toList <+: url.toList) ∧ url = parts.written

end UrlParts

/-! ## Reading parts -/

/-- A cut loses nothing, so that the part in front of the mark and the one behind it are known. -/
theorem behind_inj {mark : Char} {front other : String} {part otherPart : Option String}
    (hFront : mark ∉ front.toList) (hOther : mark ∉ other.toList)
    (h : front ++ behind mark part = other ++ behind mark otherPart) :
    front = other ∧ part = otherPart := by
  have hCut := congrArg (Text.cut? · mark) h
  rw [cut?_behind hFront, cut?_behind hOther] at hCut
  cases part with
  | none =>
      cases otherPart with
      | none => simpa [behind] using h
      | some back => cases hCut
  | some back =>
      cases otherPart with
      | none => cases hCut
      | some otherBack =>
          obtain ⟨rfl, rfl⟩ := Prod.mk.inj (Option.some.inj hCut)
          exact ⟨rfl, rfl⟩

namespace UrlParts

theorem written_of_user {parts : UrlParts} {name : String} {password : Option String}
    (h : parts.user = some (name, password)) :
    parts.written = (name ++ behind ':' password) ++ behind '@' (some parts.location) := by
  rw [written, h, credentials, behind, String.append_assoc]
  rfl

theorem written_of_noUser {parts : UrlParts} (h : parts.user = none) :
    parts.written = parts.location ++ behind '@' none := by
  rw [written, h, credentials, behind, String.empty_append, String.append_empty]

end UrlParts

namespace Options

/-! ## Options from parts -/

theorem withUser_credentials {name : String} (hName : ':' ∉ name.toList)
    (password : Option String) :
    ({} : Options).withUser (name ++ behind ':' password) = { user := name, password } := by
  rw [withUser, cut?_behind hName]
  cases password with
  | none => simp [behind]
  | some text => rfl

theorem withAddress_address (options : Options) {host : String} (hHost : ':' ∉ host.toList)
    (port : Option String) :
    options.withAddress (host ++ behind ':' port) =
      { options with
        host := if host = "" ∧ port = none then options.host else host
        port := (port.map (naturalOr Number.maxNat16 ({} : Options).port)).getD options.port } := by
  rw [withAddress, cut?_behind hHost]
  cases port with
  | none =>
      rw [behind, String.append_empty]
      by_cases hEmpty : host = ""
      · simp [hEmpty]
      · simp [hEmpty]
  | some text => simp

theorem withLocation_location (options : Options) {address : String}
    (hAddress : '/' ∉ address.toList) (dbname : Option String) :
    options.withLocation (address ++ behind '/' dbname) =
      { options with dbname := dbname.getD options.dbname : Options }.withAddress address := by
  rw [withLocation, cut?_behind hAddress]
  cases dbname with
  | none => rw [behind, String.append_empty]; rfl
  | some text => rfl

/-- Parts in front of which no cut falls are the ones that give the options. -/
theorem ofUrl_of_written {parts : UrlParts} (hSeparated : parts.Separated) {url : String}
    (hWritten : withoutScheme url = parts.written) : ofUrl url = parts.options := by
  have hLocation (options : Options) : options.withLocation parts.location =
      { options with dbname := parts.dbname.getD options.dbname : Options }.withAddress
        parts.address :=
    withLocation_location options hSeparated.address parts.dbname
  have hAddress (options : Options) := withAddress_address options hSeparated.host parts.port
  rw [ofUrl, hWritten]
  cases hUser : parts.user with
  | none =>
      rw [UrlParts.written_of_noUser hUser, cut?_behind (hSeparated.noUser hUser)]
      simp only [Option.map_none, behind, String.append_empty]
      rw [hLocation, UrlParts.address, hAddress, UrlParts.options, hUser]
      rfl
  | some credentials =>
      obtain ⟨name, password⟩ := credentials
      obtain ⟨hName, hBefore⟩ := hSeparated.user name password hUser
      rw [UrlParts.written_of_user hUser, cut?_behind hBefore]
      simp only [Option.map_some]
      rw [withUser_credentials hName, hLocation, UrlParts.address, hAddress, UrlParts.options,
        hUser]
      rfl

/-! ## The scheme -/

theorem afterScheme?_eq_some_iff {url rest : List Char} :
    afterScheme? url = some rest ↔
      ∃ scheme ∈ UrlParts.schemes, url = scheme.toList ++ rest := by
  rw [afterScheme?, Option.or_eq_some_iff, Text.withoutStart?_eq_some_iff,
    Text.withoutStart?_eq_some_iff]
  constructor
  · rintro (rfl | ⟨-, rfl⟩)
    · exact ⟨"postgres://", by decide, rfl⟩
    · exact ⟨"postgresql://", by decide, rfl⟩
  · rintro ⟨scheme, hScheme, rfl⟩
    rcases List.mem_pair.mp hScheme with rfl | rfl
    · exact .inl rfl
    · exact .inr ⟨rfl, rfl⟩

/-- **A URL without its scheme** is what is behind the scheme, or all of it without one. -/
theorem withoutScheme_eq_iff {url rest : String} :
    withoutScheme url = rest ↔
      (∃ scheme ∈ UrlParts.schemes, url = scheme ++ rest) ∨
        (∀ scheme ∈ UrlParts.schemes, ¬ scheme.toList <+: url.toList) ∧ url = rest := by
  have hAfter : ∀ text : String, afterScheme? url.toList = some text.toList ↔
      ∃ scheme ∈ UrlParts.schemes, url = scheme ++ text := by
    intro text
    simp only [afterScheme?_eq_some_iff, ← String.toList_append, String.toList_inj]
  have hNone : afterScheme? url.toList = none ↔
      ∀ scheme ∈ UrlParts.schemes, ¬ scheme.toList <+: url.toList := by
    rw [Option.eq_none_iff_forall_ne_some]
    constructor
    · rintro h scheme hScheme ⟨chars, hChars⟩
      exact h chars (afterScheme?_eq_some_iff.mpr ⟨scheme, hScheme, hChars.symm⟩)
    · intro h chars hChars
      obtain ⟨scheme, hScheme, hUrl⟩ := afterScheme?_eq_some_iff.mp hChars
      exact h scheme hScheme ⟨chars, hUrl.symm⟩
  rw [← hAfter, ← hNone, withoutScheme]
  cases hChars : afterScheme? url.toList with
  | none => simp
  | some chars => simp [← String.toList_inj]

end Options

/-! ## Every URL has its parts -/

namespace UrlParts

/-- Every text is written by some parts. -/
theorem exists_written_eq (text : String) :
    ∃ parts : UrlParts, parts.Separated ∧ parts.written = text := by
  obtain ⟨front, rest, rfl, hFront⟩ := exists_behind '@' text
  cases rest with
  | none =>
      obtain ⟨address, dbname, rfl, hAddress⟩ := exists_behind '/' front
      obtain ⟨host, port, rfl, hHost⟩ := exists_behind ':' address
      refine ⟨⟨none, host, port, dbname⟩, ⟨?_, fun _ => hFront, hHost, hAddress⟩, ?_⟩
      · intro name password h
        cases h
      · exact written_of_noUser rfl
  | some location =>
      obtain ⟨name, password, rfl, hName⟩ := exists_behind ':' front
      obtain ⟨address, dbname, rfl, hAddress⟩ := exists_behind '/' location
      obtain ⟨host, port, rfl, hHost⟩ := exists_behind ':' address
      refine ⟨⟨some (name, password), host, port, dbname⟩, ⟨?_, ?_, hHost, hAddress⟩, ?_⟩
      · intro other text h
        obtain ⟨rfl, rfl⟩ := Prod.mk.inj (Option.some.inj h)
        exact ⟨hName, hFront⟩
      · intro h
        cases h
      · exact written_of_user rfl

/-- A text is written by no two parts. -/
theorem Separated.written_inj {left right : UrlParts} (hLeft : left.Separated)
    (hRight : right.Separated) (h : left.written = right.written) : left = right := by
  have hParts : left.user = right.user ∧ left.location = right.location := by
    cases hUser : left.user with
    | none =>
        cases hOther : right.user with
        | none =>
            rw [written_of_noUser hUser, written_of_noUser hOther] at h
            exact ⟨rfl, (behind_inj (hLeft.noUser hUser) (hRight.noUser hOther) h).1⟩
        | some other =>
            obtain ⟨otherName, otherPassword⟩ := other
            rw [written_of_noUser hUser, written_of_user hOther] at h
            cases (behind_inj (hLeft.noUser hUser) (hRight.user _ _ hOther).2 h).2
    | some user =>
        obtain ⟨name, password⟩ := user
        obtain ⟨hName, hBefore⟩ := hLeft.user name password hUser
        cases hOther : right.user with
        | none =>
            rw [written_of_user hUser, written_of_noUser hOther] at h
            cases (behind_inj hBefore (hRight.noUser hOther) h).2
        | some other =>
            obtain ⟨otherName, otherPassword⟩ := other
            obtain ⟨hOtherName, hOtherBefore⟩ := hRight.user otherName otherPassword hOther
            rw [written_of_user hUser, written_of_user hOther] at h
            obtain ⟨hFront, hLocation⟩ := behind_inj hBefore hOtherBefore h
            obtain ⟨rfl, rfl⟩ := behind_inj hName hOtherName hFront
            exact ⟨rfl, Option.some.inj hLocation⟩
  obtain ⟨hUser, hLocation⟩ := hParts
  obtain ⟨hAddress, hDbname⟩ := behind_inj hLeft.address hRight.address hLocation
  obtain ⟨hHost, hPort⟩ := behind_inj hLeft.host hRight.host hAddress
  cases left
  cases right
  simp_all

theorem writtenIn_iff {parts : UrlParts} {url : String} :
    parts.WrittenIn url ↔ parts.Separated ∧ Options.withoutScheme url = parts.written := by
  rw [Options.withoutScheme_eq_iff]
  exact ⟨fun h => ⟨h.separated, h.placed⟩, fun h => ⟨h.1, h.2⟩⟩

/-- **Every URL has just one way to be read.** -/
theorem exists_writtenIn (url : String) :
    ∃ parts, ∀ other : UrlParts, other.WrittenIn url ↔ other = parts := by
  obtain ⟨parts, hSeparated, hWritten⟩ := exists_written_eq (Options.withoutScheme url)
  refine ⟨parts, fun other => ?_⟩
  rw [writtenIn_iff]
  constructor
  · rintro ⟨hOther, hSame⟩
    exact hOther.written_inj hSeparated (hSame.symm.trans hWritten.symm)
  · rintro rfl
    exact ⟨hSeparated, hWritten.symm⟩

end UrlParts

namespace Options

/-! ## Parts that are read again -/

theorem naturalOr_toString {limit default n : Nat} (h : n ≤ limit) :
    naturalOr limit default (toString n) = n := by
  rw [naturalOr, Number.readNatural_toString h]

theorem not_mem_behind_port {c : Char} (hColon : c ≠ ':') (hDigit : c.isDigit = false)
    (port : Option Nat) : c ∉ (behind ':' (port.map toString)).toList := by
  intro hMem
  obtain ⟨text, hText, hMem⟩ := Text.mem_behind.mp hMem
  obtain ⟨number, -, rfl⟩ := Option.map_eq_some_iff.mp hText
  rw [Nat.toString_eq_ofList_toDigits, String.toList_ofList] at hMem
  rw [Nat.isDigit_of_mem_toDigits (by decide) (by decide) (hMem.resolve_left hColon)] at hDigit
  cases hDigit

/-- **Parts that are written out are read again.**  A URL is put together from a scheme, a user with
or without a password, a host, a port and a database name, of which all but the scheme and the host
may be left out.  As long as no part holds a mark at which it would be cut, the options have just
these parts, the defaults for those left out, and all else at its default. -/
theorem reads_back_parts {scheme : String} (hScheme : scheme ∈ UrlParts.schemes)
    {user : Option (String × Option String)} {host : String} {port : Option Nat}
    {dbname : Option String}
    (hUser : ∀ name password, user = some (name, password) →
      (':' ∉ name.toList ∧ '@' ∉ name.toList) ∧
        ∀ text, password = some text → '@' ∉ text.toList)
    (hHost : host ≠ "" ∧ ':' ∉ host.toList ∧ '/' ∉ host.toList ∧ '@' ∉ host.toList)
    (hPort : ∀ number, port = some number → number ≤ 65535)
    (hDbname : ∀ name, dbname = some name → user = none → '@' ∉ name.toList) :
    ofUrl (scheme ++ (⟨user, host, port.map toString, dbname⟩ : UrlParts).written) =
      { user := (user.map Prod.fst).getD "quarry"
        password := user.bind Prod.snd
        host
        port := port.getD 5432
        dbname := dbname.getD "quarry" } := by
  obtain ⟨hNonempty, hColon, hSlash, hAt⟩ := hHost
  have hSeparated : (⟨user, host, port.map toString, dbname⟩ : UrlParts).Separated := by
    refine ⟨fun name password hSome => ?user, fun hNone => ?noUser, hColon, ?address⟩
    case user =>
      obtain ⟨⟨hName, hNoAt⟩, hPassword⟩ := hUser name password hSome
      rw [String.toList_append, List.mem_append, Text.mem_behind]
      refine ⟨hName, not_or.mpr ⟨hNoAt, ?_⟩⟩
      rintro ⟨text, hText, hMark | hMem⟩
      · cases hMark
      · exact hPassword text hText hMem
    case noUser =>
      rw [UrlParts.location, UrlParts.address, String.toList_append, String.toList_append,
        List.mem_append, List.mem_append, not_or, not_or]
      refine ⟨⟨hAt, not_mem_behind_port (by decide) (by decide) port⟩, fun hMem => ?_⟩
      obtain ⟨name, hName, hMark | hMem⟩ := Text.mem_behind.mp hMem
      · cases hMark
      · exact hDbname name hName hNone hMem
    case address =>
      rw [UrlParts.address, String.toList_append, List.mem_append]
      exact not_or.mpr ⟨hSlash, not_mem_behind_port (by decide) (by decide) port⟩
  rw [ofUrl_of_written hSeparated (withoutScheme_eq_iff.mpr (.inl ⟨scheme, hScheme, rfl⟩)),
    UrlParts.options]
  cases port with
  | none => simp [hNonempty]
  | some number =>
      have hRead : naturalOr Number.maxNat16 5432 (toString number) = number :=
        naturalOr_toString (hPort number rfl)
      simpa using hRead

/-- A password with a colon and a slash in it, the greatest port, and a database whose name has all
the marks. -/
theorem reads_back_parts_of_league :
    ofUrl "postgresql://hero:a:b/c@db.local:65535/x:y/z@w" =
      { user := "hero", password := some "a:b/c", host := "db.local", port := 65535
        dbname := "x:y/z@w" } :=
  @reads_back_parts "postgresql://" (by decide) (some ("hero", some "a:b/c")) "db.local"
    (some 65535) (some "x:y/z@w")
    (fun _ _ h => by
      obtain ⟨rfl, rfl⟩ := Prod.mk.inj (Option.some.inj h)
      exact ⟨by decide, fun _ hText => Option.some.inj hText ▸ by decide⟩)
    (by decide)
    (fun _ h => Option.some.inj h ▸ le_refl _)
    (fun _ _ h => nomatch h)

/-! ## Parts that come out empty -/

/-- **Which parts come out empty.**  A URL is read in one way.  A part that is absent keeps its
default.  A port that is empty or no number does so as well, and a host that is empty where no port
is written; but a user that is empty in front of its at sign, a host that is empty in front of its
port and a database name that is empty behind its slash come out empty, and nothing else does. -/
theorem empty_parts_of_url (url : String) :
    ∃ parts : UrlParts, (∀ other : UrlParts, other.WrittenIn url ↔ other = parts) ∧
      ofUrl url = parts.options ∧
      ((ofUrl url).user = "" ↔ parts.user.map Prod.fst = some "") ∧
      ((ofUrl url).host = "" ↔ parts.host = "" ∧ parts.port ≠ none) ∧
      ((ofUrl url).dbname = "" ↔ parts.dbname = some "") ∧
      (parts.user = none → (ofUrl url).user = "quarry" ∧ (ofUrl url).password = none) ∧
      (parts.host = "" → parts.port = none → (ofUrl url).host = "localhost") ∧
      (parts.dbname = none → (ofUrl url).dbname = "quarry") ∧
      (parts.port = none ∨ parts.port = some "" → (ofUrl url).port = 5432) := by
  obtain ⟨parts, hParts⟩ := UrlParts.exists_writtenIn url
  obtain ⟨hSeparated, hWritten⟩ := UrlParts.writtenIn_iff.mp ((hParts parts).mpr rfl)
  refine ⟨parts, hParts, ofUrl_of_written hSeparated hWritten, ?_⟩
  rw [ofUrl_of_written hSeparated hWritten, UrlParts.options]
  obtain ⟨user, host, port, dbname⟩ := parts
  refine ⟨?user, ?host, ?dbname, ?noUser, ?noHost, ?noDbname, ?port⟩
  case user => cases user <;> simp
  case host => by_cases hEmpty : host = "" <;> cases port <;> simp [hEmpty]
  case dbname => cases dbname <;> simp
  case noUser =>
    rintro rfl
    exact ⟨rfl, rfl⟩
  case noHost =>
    rintro rfl rfl
    rfl
  case noDbname =>
    rintro rfl
    rfl
  case port =>
    rintro (rfl | rfl)
    · rfl
    · rfl

/-- Users, hosts and database names that are left empty beside their marks. -/
theorem ofUrl_of_bare_marks :
    (ofUrl "postgres://@db.local/league").user = "" ∧
      (ofUrl "postgres://hero@:6543/league").host = "" ∧
      (ofUrl "postgres://hero@db.local:/").dbname = "" ∧
      (ofUrl "postgres://hero@db.local:/").port = 5432 :=
  ⟨rfl, rfl, rfl, rfl⟩

end Options
end FieldSearch.Postgres
