import Grid0Relay.Theorems.Commands

/-!
# Replies as TOML

`escape` escapes the quotes of a string and nothing else. So a reply is well-formed TOML
with the values it was made from exactly when its strings have no backslash and no control
character but the tab, and are UTF-8.
-/

namespace Grid0Relay.Session

open Lib Lib.Exec Lib.Toml
open Rpc (text)

/-! ## Lines -/

theorem kvString_eq (key value : Bytes) :
    kvString key value = key ++ 61 :: 34 :: (basic.write value ++ [34, 10]) := by
  rw [kvString, kv, escape_eq, show text "=" = [61] by decide, show text "\n" = [10] by decide]
  simp

theorem writes_kvString {key : Bytes} (h : Bare key) (value : Bytes) :
    Writes (kvString key value) [.pair key (.string value)] [value] := by
  rw [kvString_eq]
  exact writes_string h value

theorem kv_eq (key value : Bytes) : kv key value = key ++ 61 :: (value ++ [10]) := by
  rw [kv, show text "=" = [61] by decide, show text "\n" = [10] by decide]
  simp

theorem writes_kvInt {key : Bytes} (h : Bare key) (value : Int32) :
    Writes (kvInt key value) [.pair key (.integer value.toInt)] [] := by
  rw [kvInt, kv_eq]
  exact writes_integer h value.toInt

theorem writes_kvBool {key : Bytes} (h : Bare key) (value : Bool) :
    Writes (kvBool key value) [.pair key (.boolean value)] [] := by
  rw [kvBool, kv_eq, show text "true" = [116, 114, 117, 101] by decide,
    show text "false" = [102, 97, 108, 115, 101] by decide]
  exact writes_boolean h value

theorem writes_kvUint64 {key : Bytes} (h : Bare key) (value : UInt64) :
    Writes (kvUint64 key value) [.pair key (.integer value.toNat)] [] := by
  have hdecimal : decimal value.toNat = decimalInt value.toNat := by
    rw [decimalInt, if_neg (by omega), Int.natAbs_natCast]
  rw [kvUint64, kv_eq, hdecimal]
  exact writes_integer h value.toNat

/-! ## Answers -/

def configItems (name : Bytes) (c : LanPlayConfig) : List Item :=
  [.table [name], .pair (text "relayServer") (.string c.relayServer),
    .pair (text "socks5Server") (.string c.socks5Server),
    .pair (text "pmtu") (.integer c.pmtu.toInt),
    .pair (text "fakeInternet") (.boolean c.fakeInternet),
    .pair (text "broadcast") (.boolean c.broadcast)]

def statsItems (item : LanPlayStatsItem) : List Item :=
  [.pair (text "downloadByte") (.integer item.downloadByte.toNat),
    .pair (text "downloadPacket") (.integer item.downloadPacket.toNat),
    .pair (text "uploadByte") (.integer item.uploadByte.toNat),
    .pair (text "uploadPacket") (.integer item.uploadPacket.toNat)]

def interfaceItems (netif : NetInterface) : List Item :=
  [.element [text "interfaces"], .pair (text "name") (.string netif.name),
    .pair (text "description") (.string netif.description), .pair (text "ips") (.strings netif.ips)]

/-- What an answer is to say. -/
def Answer.items : Answer → List Item
  | .status s => [.pair (text "status") (.string (statusText s))]
  | .interfaces list => list.flatMap interfaceItems
  | .version v => [.pair (text "version") (.string v)]
  | .failed reason => [.pair (text "error") (.string reason)]
  | .config c => configItems (text "config") c
  | .lastConfig c => configItems (text "lastConfig") c
  | .stats s =>
    [.table [text "stats"], .pair (text "time") (.integer s.time.toNat),
      .table [text "stats", text "client"]] ++ statsItems s.client ++
      [.table [text "stats", text "packet"]] ++ statsItems s.packet
  | .lost => []

/-- The strings in an answer. -/
def Answer.strings : Answer → List Bytes
  | .status s => [statusText s]
  | .interfaces list => list.flatMap fun netif => netif.name :: netif.description :: netif.ips
  | .version v => [v]
  | .failed reason => [reason]
  | .config c => [c.relayServer, c.socks5Server]
  | .lastConfig c => [c.relayServer, c.socks5Server]
  | .stats _ => []
  | .lost => []

theorem writes_showConfig {name : Bytes} (h : Dotted name) (hone : name.splitOn 46 = [name])
    (c : LanPlayConfig) :
    Writes (showConfig name c) (configItems name c) [c.relayServer, c.socks5Server] := by
  have htable := writes_table h
  rw [hone] at htable
  have htext : text "[" ++ name ++ text "]\n" = 91 :: name ++ [93, 10] := by
    rw [show text "[" = [91] by decide, show text "]\n" = [93, 10] by decide]
    rfl
  rw [showConfig, htext]
  exact ((((htable.append (writes_kvString (by decide) c.relayServer)).append
    (writes_kvString (by decide) c.socks5Server)).append (writes_kvInt (by decide) c.pmtu)).append
    (writes_kvBool (by decide) c.fakeInternet)).append (writes_kvBool (by decide) c.broadcast)

theorem writes_showStatsItem (item : LanPlayStatsItem) :
    Writes (showStatsItem item) (statsItems item) [] :=
  (((writes_kvUint64 (by decide) item.downloadByte).append
    (writes_kvUint64 (by decide) item.downloadPacket)).append
    (writes_kvUint64 (by decide) item.uploadByte)).append
    (writes_kvUint64 (by decide) item.uploadPacket)

theorem arrayLines_ips (ips : List Bytes) :
    (ips.flatMap fun ip => text "  " ++ escape ip ++ text ",\n") = arrayLines ips := by
  have hline : ∀ ip, text "  " ++ escape ip ++ text ",\n" =
      32 :: 32 :: 34 :: (basic.write ip ++ [34, 44, 10]) := by
    intro ip
    rw [escape_eq, show text "  " = [32, 32] by decide, show text ",\n" = [44, 10] by decide]
    simp
  rw [arrayLines, funext hline]

theorem writes_showInterface (netif : NetInterface) :
    Writes (showInterface netif) (interfaceItems netif)
      (netif.name :: netif.description :: netif.ips) := by
  have hinterfaces : Dotted (text "interfaces") := ⟨by decide, by decide, by decide, by decide⟩
  have hname : Bare (text "name") := by decide
  have hdescription : Bare (text "description") := by decide
  have hips : Bare (text "ips") := by decide
  have harray : text "ips=[\n" ++ (netif.ips.flatMap fun ip => text "  " ++ escape ip ++ text ",\n") ++
      text "]\n" = text "ips" ++ 61 :: 91 :: 10 :: (arrayLines netif.ips ++ [93, 10]) := by
    rw [arrayLines_ips, show text "]\n" = [93, 10] by decide,
      show text "ips=[\n" = text "ips" ++ [61, 91, 10] by decide]
    simp
  have hshow : showInterface netif = text "[[interfaces]]\n" ++ (kvString (text "name") netif.name ++
      (kvString (text "description") netif.description ++
        (text "ips" ++ 61 :: 91 :: 10 :: (arrayLines netif.ips ++ [93, 10])))) := by
    rw [← harray]
    simp only [showInterface, List.append_assoc]
  rw [hshow]
  exact (writes_element hinterfaces).append ((writes_kvString hname netif.name).append
    ((writes_kvString hdescription netif.description).append (writes_strings hips netif.ips)))

theorem writes_showStats (s : LanPlayStats) :
    Writes (showStats s) (Answer.stats s).items (Answer.stats s).strings := by
  have hstats : Dotted (text "stats") := ⟨by decide, by decide, by decide, by decide⟩
  have hclient : Dotted (text "stats.client") := ⟨by decide, by decide, by decide, by decide⟩
  have hpacket : Dotted (text "stats.packet") := ⟨by decide, by decide, by decide, by decide⟩
  have htime : Bare (text "time") := by decide
  exact (((((writes_table hstats).append (writes_kvUint64 htime s.time)).append
    (writes_table hclient)).append (writes_showStatsItem s.client)).append
    (writes_table hpacket)).append (writes_showStatsItem s.packet)

/-- Every answer that is one is written as its items, if its strings allow it. -/
theorem Answer.writes {a : Answer} (h : a ≠ .lost) : Writes a.render a.items a.strings := by
  cases a with
  | status s =>
    have hkey : Bare (text "status") := by decide
    exact writes_kvString hkey (statusText s)
  | interfaces list => exact .flatMap writes_showInterface list
  | version v =>
    have hkey : Bare (text "version") := by decide
    exact writes_kvString hkey v
  | failed reason =>
    have hkey : Bare (text "error") := by decide
    exact writes_kvString hkey reason
  | config c | lastConfig c =>
    exact writes_showConfig ⟨by decide, by decide, by decide, by decide⟩ (by decide) c
  | stats s => exact writes_showStats s
  | lost => exact absurd rfl h

/-! ## Names -/

/-- Behind an element of the array. -/
def listed : Toml.Scope where
  table := [text "interfaces"]
  keys := [[text "interfaces", text "ips"], [text "interfaces", text "description"],
    [text "interfaces", text "name"]]
  tables := []
  arrays := [[text "interfaces"]]

theorem run_interfaces {s : Toml.Scope} (h : s = .start ∨ s = listed) (list : List NetInterface) :
    (s.run (list.flatMap interfaceItems)).isSome := by
  induction list generalizing s with
  | nil => rfl
  | cons netif list ih =>
    have hone : s.run (interfaceItems netif) = some listed := by
      rw [← Toml.Scope.run_shape]
      rcases h with rfl | rfl
      · change Toml.Scope.run .start (interfaceItems ⟨[], [], []⟩ |>.map Item.shape) = _
        decide
      · change Toml.Scope.run listed (interfaceItems ⟨[], [], []⟩ |>.map Item.shape) = _
        decide
    rw [List.flatMap_cons, Toml.Scope.run_append, hone]
    exact ih (Or.inr rfl)

theorem isSome_of_shape {items : List Item} (sample : List Item)
    (hshape : items.map Item.shape = sample.map Item.shape) (h : (Toml.Scope.start.run sample).isSome) :
    (Toml.Scope.start.run items).isSome := by
  rw [← Toml.Scope.run_shape, hshape, Toml.Scope.run_shape]
  exact h

theorem Answer.names (a : Answer) : (Toml.Scope.start.run a.items).isSome := by
  cases a with
  | status s => exact isSome_of_shape (Answer.status .none).items rfl (by decide)
  | interfaces list => exact run_interfaces (Or.inl rfl) list
  | version v => exact isSome_of_shape (Answer.version []).items rfl (by decide)
  | failed reason => exact isSome_of_shape (Answer.failed []).items rfl (by decide)
  | config c => exact isSome_of_shape (Answer.config .init).items rfl (by decide)
  | lastConfig c => exact isSome_of_shape (Answer.lastConfig .init).items rfl (by decide)
  | stats s =>
    exact isSome_of_shape (Answer.stats ⟨⟨0, 0, 0, 0⟩, ⟨0, 0, 0, 0⟩, 0⟩).items rfl
      (by decide)
  | lost => rfl

/-! ## Replies -/

theorem lost_not_toml : readItems (text "server lost") = none := by
  have hline : readLine (text "server lost") = none := by decide
  rw [readItems, if_neg (by decide), hline]

theorem Answer.reads_iff (a : Answer) :
    Reads a.render a.items ↔ a ≠ .lost ∧ ∀ s ∈ a.strings, Utf8 s ∧ Plain s := by
  by_cases hlost : a = .lost
  · subst hlost
    constructor
    · intro h
      have hlines := h.lines
      rw [show Answer.lost.render = text "server lost" from rfl, lost_not_toml] at hlines
      cases hlines
    · rintro ⟨hne, -⟩
      exact absurd rfl hne
  · rw [(Answer.writes hlost).reads_iff a.names]
    exact (and_iff_right hlost).symm

/-- `escape` alone: what it writes is a TOML string for the value. -/
theorem escape_reads_iff (value : Bytes) :
    Utf8 (escape value) ∧ basic.read (escape value) = some (value, []) ↔
      Utf8 value ∧ Plain value := by
  have hread : basic.read (escape value) = basic.body (basic.write value ++ 34 :: []) := by
    rw [escape_eq]
    rfl
  have hbody : basic.body (basic.write value ++ 34 :: []) = some (value, []) ↔
      (∀ b ∈ value, basic.Verbatim b) ∧ ([] : Bytes) = [] :=
    Literal.body_write_iff basic_thrifty (fun _ => rfl) (by simp) value []
  have hutf8 : Utf8 (escape value) ↔ Utf8 value := by
    rw [escape_eq, utf8_cons_iff (by decide), utf8_cut_iff (by decide), utf8_write_iff]
    exact and_iff_left utf8_nil
  rw [hutf8, hread]
  refine and_congr_right fun _ => hbody.trans ?_
  exact and_iff_left rfl

/-- **Replies.** A string that was escaped is read back exactly when it is text without
backslashes and control characters other than the tab. A reply is well-formed TOML that says
what was asked for exactly when that holds for all of its strings and the server is there. -/
theorem replies_decode_iff (m : Machine) (message : Bytes) (w : World) :
    (∀ value, Utf8 (escape value) ∧ basic.read (escape value) = some (value, []) ↔
      Utf8 value ∧ Plain value) ∧
    ∀ reply w', onMessage m message w = .ok reply w' →
      ∃ a, Says m message w w' a ∧ reply = a.render ∧
        (Reads reply a.items ↔ a ≠ .lost ∧ ∀ s ∈ a.strings, Utf8 s ∧ Plain s) := by
  refine ⟨escape_reads_iff, ?_⟩
  intro reply w' hrun
  have hleads := onMessage_leads m message w
  rw [hrun] at hleads
  obtain ⟨a, hsays, rfl⟩ := hleads
  exact ⟨a, hsays, rfl, a.reads_iff⟩

theorem replies_decode_iff_version :
    (Utf8 (escape (text "say \"hi\"")) ∧
      basic.read (escape (text "say \"hi\"")) = some (text "say \"hi\"", [])) ∧
    ∃ reply w', onMessage plainMachine (text "version") bootWorld = .ok reply w' ∧
      Reads reply [.pair (text "version") (.string (text "1"))] := by
  have hascii : ∀ {s : Bytes}, Ascii s → Utf8 s := by
    intro s hs
    have hiff := utf8_ascii_append_iff hs []
    rw [List.append_nil] at hiff
    exact hiff.mpr utf8_nil
  have hboth := replies_decode_iff plainMachine (text "version") bootWorld
  refine ⟨(hboth.1 _).mpr ⟨hascii (by decide), by decide⟩, _, _, rfl, ?_⟩
  obtain ⟨a, hsays, hreply, hiff⟩ := hboth.2 _ _ rfl
  have hcommand : commandOf (text "version") = .version := by decide
  have hversion : a = .version (text "1") := by
    cases hsays with
    | version h => rfl
    | lost gone => cases gone
    | status h | interfaces h found | config h | lastConfig h | stats h | failed h same
    | invalid h same | unknown h same => rw [hcommand] at h; exact absurd h (by decide)
  subst hversion
  refine hiff.mpr ⟨by simp, ?_⟩
  intro s hs
  rw [List.mem_singleton.mp hs]
  exact ⟨hascii (by decide), by decide⟩

/-- A name of an adapter on Windows is no TOML string, and a backslash in front of an `n` is
read as a newline. -/
theorem backslash_not_escaped :
    basic.read (escape (text "\\Device\\NPF_x")) = none ∧
    basic.read (escape (text "relay\\net")) = some (text "relay\net", []) := by
  decide +kernel

end Grid0Relay.Session
