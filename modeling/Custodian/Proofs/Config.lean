import Custodian.Config
import Custodian.Proofs.Text.Split

/-!
# Accepted configurations

* `load_eq_ok_iff`: an accepted configuration is what the document of a file writes, and has no flaw;
* `flaw?_eq_none_iff`: having no flaw is being sound, check by check;
* `appliance_given`: what the configuration says about the appliance is what the document gives;
* `accepted_isUsable`: what a configuration that is accepted can be relied on for.
-/

namespace Custodian

open Toml (Item)

/-! ### Fields that a document gives -/

/-- The value that a record with the given names gives for one of them. -/
def Toml.Item.field? (names : List Text) (name : Text) (item : Item) : Option Item :=
  (item.fields? names).bind fun fields => (fields[names.idxOf name]?).join

lemma Toml.Item.field?_table {names : List Text} {name : Text} (h : name ∈ names) (origin : Toml.Origin)
    (entries : Toml.Entries) : (Item.table origin entries).field? names name = entries.get? name := by
  have hindex : names.idxOf name < names.length := List.idxOf_lt_length_of_mem h
  simp [Item.field?, Item.fields?, List.getElem?_map, List.getElem?_eq_getElem hindex]

namespace Config

def fieldNames : List Text := ["store_path", "space", "arkivum", "mail"]

def applianceFieldNames : List Text :=
  ["host", "scheme", "remote_user", "remote_name", "insecure_skip_verify"]

/-- The value that a document gives for one of the fields about the appliance. -/
def appliance? (name : Text) (document : Item) : Option Item :=
  (document.field? fieldNames "arkivum").bind (Item.field? applianceFieldNames name)

/-- Where its record for the appliance is a table, a document gives what stands there under the name. -/
lemma appliance?_eq_get? {name : Text} (hname : name ∈ applianceFieldNames) {root entries : Toml.Entries}
    {origin : Toml.Origin} (hentries : root.get? "arkivum" = some (.table origin entries))
    (rootOrigin : Toml.Origin) : appliance? name (.table rootOrigin root) = entries.get? name := by
  have hrecord : (Item.table rootOrigin root).field? fieldNames "arkivum" = some (.table origin entries) := by
    rw [Item.field?_table (by decide), hentries]
  rw [appliance?, hrecord, Option.bind_some, Item.field?_table hname]

/-! ### Reading -/

section Reading

variable {item document : Item} {field : Option Item}

lemma text?_eq_some_iff {t : Text} : item.text? = some t ↔ item = .string t := by
  cases item <;> simp [Item.text?]

lemma required?_text {t : Text} (h : required? Item.text? field = some t) : field = some (.string t) := by
  obtain ⟨item, hfield, hitem⟩ := Option.bind_eq_some_iff.1 h
  rw [hfield, text?_eq_some_iff.1 hitem]

lemma optionalText?_eq_some {t : Option Text} (h : optionalText? field = some t) :
    field = t.map .string := by
  rcases field with _ | item
  · rw [optionalText?, Option.some.injEq] at h
    rw [← h, Option.map_none]
  · obtain ⟨s, hs, hst⟩ := Option.map_eq_some_iff.1 h
    rw [← hst, text?_eq_some_iff.1 hs, Option.map_some]

/-- What is read about the appliance is what its record gives. -/
lemma applianceOfItem?_eq_some {a : ApplianceConfig} (h : applianceOfItem? item = some a) :
    item.field? applianceFieldNames "host" = some (.string a.host) ∧
      item.field? applianceFieldNames "remote_user" = a.remoteUser.map .string ∧
      item.field? applianceFieldNames "remote_name" = a.remoteName.map .string := by
  unfold applianceOfItem? at h
  obtain ⟨fields, hfields, hread⟩ := Option.bind_eq_some_iff.1 h
  change item.fields? applianceFieldNames = some fields at hfields
  split at hread
  · simp only [Option.pure_def, Option.bind_eq_bind, Option.bind_eq_some_iff, Option.some.injEq] at hread
    obtain ⟨host, hhost, scheme, -, user, huser, name, hname, insecure, -, rfl⟩ := hread
    simp only [Item.field?, hfields, Option.bind_some]
    exact ⟨required?_text hhost, optionalText?_eq_some huser, optionalText?_eq_some hname⟩
  · cases hread

/-- What is read about the appliance is what the document gives. -/
lemma appliance_given {c : Config} (h : ofItem? document = some c) :
    appliance? "host" document = some (.string c.appliance.host) ∧
      appliance? "remote_user" document = c.appliance.remoteUser.map .string ∧
      appliance? "remote_name" document = c.appliance.remoteName.map .string := by
  unfold ofItem? at h
  obtain ⟨fields, hfields, hread⟩ := Option.bind_eq_some_iff.1 h
  change document.fields? fieldNames = some fields at hfields
  split at hread
  · simp only [Option.pure_def, Option.bind_eq_bind, Option.bind_eq_some_iff, Option.some.injEq] at hread
    obtain ⟨storePath, -, spacePath, -, a, happliance, mail, -, rfl⟩ := hread
    obtain ⟨item, hitem, ha⟩ := Option.bind_eq_some_iff.1 happliance
    have hrecord : document.field? fieldNames "arkivum" = some item := by
      simp only [Item.field?, hfields, Option.bind_some]
      exact hitem
    simp only [appliance?, hrecord, Option.bind_some]
    exact applianceOfItem?_eq_some ha
  · cases hread

end Reading

/-! ### Checking -/

/-- A configuration without a flaw. -/
structure IsSound (c : Config) : Prop where
  host : c.appliance.host ≠ []
  scheme : c.appliance.scheme = "https".toList ∨ c.appliance.scheme = "http".toList
  together : c.appliance.remoteUser.isSome = c.appliance.remoteName.isSome
  space : Path.isAbsolute c.spacePath = true
  store : c.storePath ≠ []
  users : ∀ user ∈ c.mail.users, '@' ∈ user.email

variable {c : Config}

lemma flaw?_eq_none_iff : c.flaw? = none ↔ c.IsSound := by
  constructor
  · intro h
    unfold flaw? at h
    split at h
    · cases h
    split at h
    · cases h
    split at h
    · cases h
    split at h
    · cases h
    split at h
    · cases h
    rename_i host scheme together space store
    refine ⟨?_, ?_, ?_, ?_, ?_, ?_⟩
    · simpa using host
    · by_contra hscheme
      exact scheme (not_or.1 hscheme)
    · simpa using together
    · simpa using space
    · simpa using store
    · simpa using h
  · intro h
    have hscheme : ¬(c.appliance.scheme ≠ "https".toList ∧ c.appliance.scheme ≠ "http".toList) := by
      rw [← not_or, not_not]
      exact h.scheme
    have husers : c.mail.users.find? (fun user => !user.email.contains '@') = none := by
      simpa using h.users
    have hhost : c.appliance.host.isEmpty = false := by simpa using h.host
    have hstore : c.storePath.isEmpty = false := by simpa using h.store
    rw [flaw?, if_neg (by rw [hhost]; decide), if_neg hscheme, if_neg (by simpa using h.together),
      if_neg (by simp [h.space]), if_neg (by rw [hstore]; decide), husers, Option.map_none]

lemma load_eq_ok_iff {path : Text} {content : Option Bytes} :
    load path content = .ok c ↔ ∃ text document, content.bind Utf8.decode? = some text ∧
      Toml.read? text = some document ∧ ofItem? document = some c ∧ c.IsSound := by
  rw [← flaw?_eq_none_iff]
  constructor
  · intro h
    unfold load at h
    split at h
    · cases h
    rename_i text htext
    split at h
    · cases h
    rename_i config hread
    split at h
    · cases h
    rename_i hflaw
    cases h
    obtain ⟨document, hdocument, hconfig⟩ := Option.bind_eq_some_iff.1 hread
    exact ⟨text, document, htext, hdocument, hconfig, hflaw⟩
  · rintro ⟨text, document, htext, hdocument, hconfig, hflaw⟩
    have hread : read? text = some c := by rw [read?, hdocument, Option.bind_some, hconfig]
    simp only [load, htext, hread, hflaw]

/-! ### Using -/

/-- The host of the base URL is the host that is given, up to the slashes at its end. -/
lemma baseUrl_eq (a : ApplianceConfig) :
    ∃ host slashes, a.baseUrl = a.scheme ++ "://" ++ host ∧ a.host = host ++ slashes ∧
      (∀ ch ∈ slashes, ch = '/') ∧ host.getLast? ≠ some '/' := by
  obtain ⟨slashes, hhost, hslashes, hlast⟩ := Text.exists_trimEnd '/' a.host
  exact ⟨_, slashes, rfl, hhost, hslashes, hlast⟩

/-- The remote machine is the one that is given, if nothing about it is empty. -/
lemma remote?_eq_some_iff {a : ApplianceConfig} {r : Remote} :
    a.remote? = some r ↔
      a.remoteUser = some r.user ∧ a.remoteName = some r.host ∧ r.user ≠ [] ∧ r.host ≠ [] := by
  unfold ApplianceConfig.remote?
  rcases a.remoteUser with _ | user
  · simp
  rcases a.remoteName with _ | host
  · simp
  dsimp only
  split
  · rename_i hempty
    simp only [Bool.or_eq_true, List.isEmpty_iff] at hempty
    simp only [reduceCtorEq, Option.some.injEq, false_iff, not_and]
    rintro rfl rfl huser
    exact not_not.2 (hempty.resolve_left huser)
  · rename_i hempty
    simp only [Bool.or_eq_true, List.isEmpty_iff, not_or] at hempty
    rw [Option.some.injEq, Option.some.injEq, Option.some.injEq]
    constructor
    · rintro rfl
      exact ⟨rfl, rfl, hempty⟩
    · rintro ⟨rfl, rfl, -⟩
      rfl

/-- A document gives a text that is not empty for a field about the appliance. -/
def GivesText (document : Item) (name : Text) : Prop :=
  ∃ t, t ≠ [] ∧ appliance? name document = some (.string t)

variable {document : Item} {name : Text} {field : Option Text}

lemma appliance?_eq_string_iff (h : appliance? name document = field.map .string) (t : Text) :
    appliance? name document = some (.string t) ↔ field = some t := by
  rw [h]
  rcases field with _ | s
  · simp
  · simp

lemma givesText_iff (h : appliance? name document = field.map .string) :
    GivesText document name ↔ ∃ t, t ≠ [] ∧ field = some t := by
  simp only [GivesText, appliance?_eq_string_iff h]

/-- Of a user and a machine that are given together, and of which not just one is empty, there is a remote
machine just if one of them is not empty. -/
lemma isSome_remote?_iff {a : ApplianceConfig} (together : a.remoteUser.isSome = a.remoteName.isSome)
    (whole : a.remoteUser = some [] ↔ a.remoteName = some []) :
    a.remote?.isSome = true ↔
      (∃ t, t ≠ [] ∧ a.remoteUser = some t) ∨ ∃ t, t ≠ [] ∧ a.remoteName = some t := by
  rw [Option.isSome_iff_exists]
  constructor
  · rintro ⟨r, hr⟩
    obtain ⟨huser, -, hne, -⟩ := remote?_eq_some_iff.1 hr
    exact .inl ⟨r.user, hne, huser⟩
  · intro given
    have hsome : a.remoteUser.isSome = true := by
      rcases given with ⟨t, -, ht⟩ | ⟨t, -, ht⟩
      · rw [ht, Option.isSome_some]
      · rw [together, ht, Option.isSome_some]
    obtain ⟨user, huser⟩ := Option.isSome_iff_exists.1 hsome
    obtain ⟨host, hhost⟩ := Option.isSome_iff_exists.1 (together.symm.trans hsome)
    rw [huser, hhost, Option.some.injEq, Option.some.injEq] at whole
    refine ⟨⟨user, host⟩, remote?_eq_some_iff.2 ⟨huser, hhost, ?_⟩⟩
    rcases given with ⟨t, hne, ht⟩ | ⟨t, hne, ht⟩
    · obtain rfl : user = t := Option.some.inj (huser.symm.trans ht)
      exact ⟨hne, fun h => hne (whole.2 h)⟩
    · obtain rfl : host = t := Option.some.inj (hhost.symm.trans ht)
      exact ⟨fun h => hne (whole.1 h), hne⟩

/-- **An accepted configuration is usable.** The base URL is the scheme of a web address and the host that the
document gives without the slashes at its end; it has a host unless nothing but slashes is given. Unless just
one of the two is empty, there is a remote machine just if a text that is not empty is given for its user or for
its name; and then both are the given ones. The space has an absolute path, the records have a directory, and
every user has an address.

A configuration is meant to be refused if it gives no host, or only one of user and name. A host of nothing but
slashes and a user or a name that is empty beside one that is not are accepted all the same. These are the
exceptions above. -/
theorem accepted_isUsable {path : Text} {content : Option Bytes} (accepted : load path content = .ok c) :
    ∃ text document, content.bind Utf8.decode? = some text ∧ Toml.read? text = some document ∧
      (∃ host slashes,
        (c.appliance.baseUrl = "https://" ++ host ∨ c.appliance.baseUrl = "http://" ++ host) ∧
          appliance? "host" document = some (.string (host ++ slashes)) ∧ (∀ ch ∈ slashes, ch = '/') ∧
          host.getLast? ≠ some '/' ∧ ((∃ ch ∈ host ++ slashes, ch ≠ '/') → host ≠ [])) ∧
      ((appliance? "remote_user" document = some (.string []) ↔
          appliance? "remote_name" document = some (.string [])) →
        (c.appliance.remote?.isSome = true ↔
          GivesText document "remote_user" ∨ GivesText document "remote_name")) ∧
      (∀ r, c.appliance.remote? = some r →
        appliance? "remote_user" document = some (.string r.user) ∧
          appliance? "remote_name" document = some (.string r.host)) ∧
      Path.isAbsolute c.spacePath = true ∧ c.storePath ≠ [] ∧
      ∀ user ∈ c.mail.users, '@' ∈ user.email := by
  obtain ⟨text, document, htext, hdocument, hread, sound⟩ := load_eq_ok_iff.1 accepted
  obtain ⟨given_host, given_user, given_name⟩ := appliance_given hread
  refine ⟨text, document, htext, hdocument, ?_, ?_, ?_, sound.space, sound.store, sound.users⟩
  · obtain ⟨host, slashes, hurl, hhost, hslashes, hlast⟩ := baseUrl_eq c.appliance
    refine ⟨host, slashes, ?_, by rw [given_host, hhost], hslashes, hlast, ?_⟩
    · rcases sound.scheme with hscheme | hscheme
      · exact .inl (by rw [hurl, hscheme]; rfl)
      · exact .inr (by rw [hurl, hscheme]; rfl)
    · rintro ⟨ch, hch, hne⟩ rfl
      exact hne (hslashes ch hch)
  · rw [appliance?_eq_string_iff given_user, appliance?_eq_string_iff given_name, givesText_iff given_user,
      givesText_iff given_name]
    exact isSome_remote?_iff sound.together
  · intro r hr
    obtain ⟨huser, hname, -, -⟩ := remote?_eq_some_iff.1 hr
    rw [given_user, given_name, huser, hname]
    exact ⟨rfl, rfl⟩

/-- A document that gives the same text for the user and for the name of a remote machine. -/
def documentWith (remote : String) : Text :=
  "store_path = \"packages\"\n[space]\npath = \"/mnt/arkivum\"\n[arkivum]\nhost = \"arkivum\"\n" ++
    "remote_user = \"" ++ remote ++ "\"\nremote_name = \"" ++ remote ++ "\"\n"

/-- The configuration that the document writes. -/
def configWith (remote : String) : Config where
  storePath := "packages"
  spacePath := "/mnt/arkivum"
  appliance := ⟨"arkivum", "https", some remote, some remote, false⟩
  mail := defaultMail

theorem accepted_isUsable_remote :
    load "agent.toml" (some (Utf8.encode (documentWith "keeper"))) = .ok (configWith "keeper") ∧
      (configWith "keeper").appliance.remote? = some ⟨"keeper", "keeper"⟩ ∧
      ∃ document, appliance? "remote_user" document = some (.string "keeper") ∧
        appliance? "remote_name" document = some (.string "keeper") := by
  have accepted :
      load "agent.toml" (some (Utf8.encode (documentWith "keeper"))) = .ok (configWith "keeper") := by
    decide +kernel
  obtain ⟨-, document, -, -, -, -, given, -⟩ := accepted_isUsable accepted
  exact ⟨accepted, rfl, document, given _ rfl⟩

/-- A user and a name that are given, but empty, are accepted and configure no remote machine. -/
theorem empty_remote_isLocal :
    load "agent.toml" (some (Utf8.encode (documentWith ""))) = .ok (configWith "") ∧
      (∀ document, Toml.read? (documentWith "") = some document →
        (appliance? "remote_user" document).isSome = true ∧
          (appliance? "remote_name" document).isSome = true) ∧
      (configWith "").appliance.remote?.isSome = false := by
  have accepted : load "agent.toml" (some (Utf8.encode (documentWith ""))) = .ok (configWith "") := by
    decide +kernel
  have given : ((Toml.read? (documentWith "")).bind (appliance? "remote_user")).isSome = true ∧
      ((Toml.read? (documentWith "")).bind (appliance? "remote_name")).isSome = true := by
    decide +kernel
  refine ⟨accepted, ?_, rfl⟩
  intro document hdocument
  rwa [hdocument, Option.bind_some, Option.bind_some] at given

end Config

end Custodian
