import ModerationGateway.Config.Basic
import ModerationGateway.Proofs.Json.Fields

/-!
# Configurations, written and read

What is written for a configuration is read as that configuration, whatever its names, texts and
numbers are and whichever of its parts are absent: a part that is absent is written as null or as
an empty list, and all else is written out and needs no default. So a document that was accepted can
be written anew without a change of meaning.

* `isPlain_toJson`, `isReadAs_toJson`: what is written for each kind of settings;
* `Config.isKept_settings`: all settings are read again, and nothing is lost when a document is
  written anew.
-/

namespace ModerationGateway

open Json

/-! ### Words -/

namespace Words.MatchMode

theorem isPlain_toJson (m : MatchMode) (depth : Nat) : IsPlain depth m.toJson := by
  cases m <;> cases depth <;> trivial

theorem isReadAs_toJson (m : MatchMode) : IsReadAs (ofJson? .json) m.toJson m := by
  cases m <;> exact isReadAs_choice (by decide)

end Words.MatchMode

namespace FailurePolicy

theorem isPlain_toJson (p : FailurePolicy) (depth : Nat) : IsPlain depth p.toJson := by
  cases p <;> cases depth <;> trivial

theorem isReadAs_toJson (p : FailurePolicy) : IsReadAs (ofJson? .json) p.toJson p := by
  cases p <;> exact isReadAs_choice (by decide)

end FailurePolicy

/-! ### Rules -/

namespace BreakerSettings

theorem isPlain_toJson (s : BreakerSettings) (depth : Nat) : IsPlain (depth + 1) s.toJson := by
  simp [toJson, IsPlain, HavePlain, isPlain_ofNat, UInt64.toNat_lt_size]

theorem isReadAs_toJson (s : BreakerSettings) : IsReadAs (ofJson? .json) s.toJson s := by
  refine isReadAs_object (show fieldNames.Nodup by decide) fun r hr => ?_
  have hgiven := hr.given
  simp only [List.forall_mem_cons] at hgiven
  obtain ⟨henabled, hvolume, hpercentage, hsleep, hrolling, htimeout, hconcurrent, -⟩ := hgiven
  simp only [ofJson?, record?, Option.bind_eq_bind, Option.bind_some,
    henabled.default? (isReadAs_flag _), hvolume.default? (isReadAs_natural64 _),
    hpercentage.default? (isReadAs_natural64 _), hsleep.default? (isReadAs_natural64 _),
    hrolling.default? (isReadAs_natural64 _), htimeout.default? (isReadAs_natural64 _),
    hconcurrent.default? (isReadAs_natural64 _)]

end BreakerSettings

namespace ContentSecurity

theorem isPlain_toJson (c : ContentSecurity) (depth : Nat) : IsPlain (depth + 2) c.toJson := by
  simp [toJson, IsPlain, HavePlain, isPlain_ofNat, UInt64.toNat_lt_size,
    BreakerSettings.isPlain_toJson, FailurePolicy.isPlain_toJson]

/-- The other spelling of the kind is never written. -/
theorem kind?_of_gives {r : Record} {kind : String} (h : r.Gives "kind" (.string kind))
    (htype : r.lookup "type" = none) : kind? r = some kind := by
  rcases h with h | h <;> simp [kind?, h, htype, normal, text?, string?]

theorem isReadAs_toJson (c : ContentSecurity) : IsReadAs (ofJson? .json) c.toJson c := by
  refine isReadAs_object (show fieldNames.Nodup by decide) fun r hr => ?_
  have htype : r.lookup "type" = none :=
    hr.absent "type" (show "type" ∉ fieldNames by decide)
  have hgiven := hr.given
  simp only [List.forall_mem_cons] at hgiven
  obtain ⟨hvendor, hurl, hkey, htoken, happ, hevent, hkind, hbatch, hwindow, hpolicy, htail,
    hbreaker, -⟩ := hgiven
  simp only [ofJson?, record?, Option.bind_eq_bind, Option.bind_some,
    hvendor.default? (isReadAs_text _), hurl.required? (isReadAs_text _),
    hkey.default? (isReadAs_text _), htoken.default? (isReadAs_text _),
    happ.default? (isReadAs_text _), hevent.default? (isReadAs_text _), kind?_of_gives hkind htype,
    hbatch.default? (isReadAs_natural64 _), hwindow.default? (isReadAs_natural64 _),
    hpolicy.required? (FailurePolicy.isReadAs_toJson _), htail.default? (isReadAs_flag _),
    hbreaker.default? (BreakerSettings.isReadAs_toJson _)]

end ContentSecurity

namespace SensitiveWords

theorem isPlain_toJson (s : SensitiveWords) (depth : Nat) : IsPlain (depth + 1) s.toJson := by
  simp [toJson, IsPlain, HavePlain, Words.MatchMode.isPlain_toJson]

theorem isReadAs_toJson (s : SensitiveWords) : IsReadAs (ofJson? .json) s.toJson s := by
  refine isReadAs_object (show fieldNames.Nodup by decide) fun r hr => ?_
  have hgiven := hr.given
  simp only [List.forall_mem_cons] at hgiven
  obtain ⟨hsource, hversion, hmode, -⟩ := hgiven
  simp only [ofJson?, record?, Option.bind_eq_bind, Option.bind_some,
    hsource.required? (isReadAs_text _), hversion.default? (isReadAs_text _),
    hmode.default? (Words.MatchMode.isReadAs_toJson _)]

end SensitiveWords

namespace Rule

theorem isPlain_toJson (r : Rule) (depth : Nat) : IsPlain (depth + 3) r.toJson :=
  ⟨trivial, isPlain_ofOption (fun c => c.isPlain_toJson depth) r.contentSecurity,
    isPlain_ofOption (fun s => s.isPlain_toJson (depth + 1)) r.sensitiveWords, trivial⟩

theorem isReadAs_toJson (rule : Rule) : IsReadAs (ofJson? .json) rule.toJson rule := by
  refine isReadAs_object (show fieldNames.Nodup by decide) fun r hr => ?_
  have hgiven := hr.given
  simp only [List.forall_mem_cons] at hgiven
  obtain ⟨hid, hsecurity, hwords, -⟩ := hgiven
  simp only [ofJson?, record?, Option.bind_eq_bind, Option.bind_some,
    hid.required? (isReadAs_text _),
    hsecurity.default? (isReadAs_maybe ContentSecurity.isReadAs_toJson (fun _ => nofun) _),
    hwords.default? (isReadAs_maybe SensitiveWords.isReadAs_toJson (fun _ => nofun) _)]

end Rule

/-! ### The whole -/

namespace ProxySettings

theorem isPlain_toJson (p : ProxySettings) (depth : Nat) : IsPlain (depth + 1) p.toJson := by
  have hsocket : p.socket.toNat < UInt64.size := Nat.lt_trans p.socket.toNat_lt (by decide)
  have hkey : IsPlain depth (.ofOption (p.apiKey.map Json.string)) :=
    isPlain_ofOption (fun _ => by cases depth <;> trivial) p.apiKey
  simp [toJson, IsPlain, HavePlain, isPlain_ofNat, UInt64.toNat_lt_size, hsocket, hkey]

theorem isReadAs_toJson (p : ProxySettings) : IsReadAs (ofJson? .json) p.toJson p := by
  refine isReadAs_object (show fieldNames.Nodup by decide) fun r hr => ?_
  have hgiven := hr.given
  simp only [List.forall_mem_cons] at hgiven
  obtain ⟨hbackend, hsocket, hhost, htimeout, hverbose, hbody, hkey, -⟩ := hgiven
  simp only [ofJson?, record?, Option.bind_eq_bind, Option.bind_some,
    hbackend.default? (isReadAs_text _), hsocket.default? (isReadAs_natural16 _),
    hhost.default? (isReadAs_text _), htimeout.default? (isReadAs_natural64 _),
    hverbose.default? (isReadAs_flag _), hbody.default? (isReadAs_natural64 _),
    hkey.default? (isReadAs_maybe isReadAs_text (fun _ => nofun) _)]

end ProxySettings

namespace Route

theorem isPlain_toJson (r : Route) (depth : Nat) : IsPlain (depth + 1) r.toJson := by
  simp [toJson, IsPlain, HavePlain]

theorem isReadAs_toJson (route : Route) : IsReadAs (ofJson? .json) route.toJson route := by
  refine isReadAs_object (show fieldNames.Nodup by decide) fun r hr => ?_
  have hgiven := hr.given
  simp only [List.forall_mem_cons] at hgiven
  obtain ⟨hpath, hrule, -⟩ := hgiven
  simp only [ofJson?, record?, Option.bind_eq_bind, Option.bind_some,
    hpath.required? (isReadAs_text _), hrule.required? (isReadAs_text _)]

end Route

namespace Config

theorem isReadAs_wordsDir (dir : String) :
    IsReadAs (wordsDirOfJson? .json) (.object [("dir", .string dir)]) dir := by
  refine isReadAs_object (show ["dir"].Nodup by decide) fun r hr => ?_
  have hgiven := hr.given
  simp only [List.forall_mem_cons] at hgiven
  simp only [wordsDirOfJson?, record?, Option.bind_eq_bind, Option.bind_some,
    hgiven.1.required? (isReadAs_text _)]

theorem isPlain_toJson (c : Config) : IsPlain maxDepth c.toJson :=
  ⟨c.proxy.isPlain_toJson 125, ⟨trivial, trivial⟩,
    arePlain_map (fun r => r.isPlain_toJson 124) c.routes,
    arePlain_map (fun r => r.isPlain_toJson 122) c.rules, trivial⟩

theorem isReadAs_toJson (wordsDir : String) (c : Config) :
    IsReadAs (ofJson? .json wordsDir) c.toJson c := by
  refine isReadAs_object (show fieldNames.Nodup by decide) fun r hr => ?_
  have hgiven := hr.given
  simp only [List.forall_mem_cons] at hgiven
  obtain ⟨hproxy, hwords, hroutes, hrules, -⟩ := hgiven
  simp only [ofJson?, record?, Option.bind_eq_bind, Option.bind_some,
    hproxy.default? (ProxySettings.isReadAs_toJson _), hwords.default? (isReadAs_wordsDir _),
    hroutes.default? (isReadAs_list Route.isReadAs_toJson _),
    hrules.default? (isReadAs_list Rule.isReadAs_toJson _)]

/-- Whatever directory is assumed where a document names none, no configuration and no part of one
is changed by being written and read. -/
theorem isKept_settings (wordsDir : String) :
    IsKept Config.toJson (Config.ofJson? .json wordsDir) ∧
      IsKept Rule.toJson (Rule.ofJson? .json) ∧
      IsKept ContentSecurity.toJson (ContentSecurity.ofJson? .json) ∧
      IsKept SensitiveWords.toJson (SensitiveWords.ofJson? .json) ∧
      IsKept BreakerSettings.toJson (BreakerSettings.ofJson? .json) :=
  ⟨isKept_of_isReadAs isPlain_toJson (isReadAs_toJson wordsDir),
    isKept_of_isReadAs (fun r => r.isPlain_toJson 124) Rule.isReadAs_toJson,
    isKept_of_isReadAs (fun c => c.isPlain_toJson 125) ContentSecurity.isReadAs_toJson,
    isKept_of_isReadAs (fun s => s.isPlain_toJson 126) SensitiveWords.isReadAs_toJson,
    isKept_of_isReadAs (fun s => s.isPlain_toJson 126) BreakerSettings.isReadAs_toJson⟩

end Config

end ModerationGateway
