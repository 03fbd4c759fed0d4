import SriovFec.Daemon.BBDevConfig
import Mathlib.Data.List.Infix

/-!
# Running `pf_bb_config`

`initializePfBBConfig` generates the bbdev config file of a physical function, runs
`pf_bb_config` on it for the device name the node's accelerator table gives, and removes
the file in a deferred call whose error is only logged. `stopPfBBConfig` kills the tool
for a PCI address and removes the socket file it may leave; the pattern it gives
`pkill -f` matches the command line of every run of the tool for that address.

A run's effects on the node take one of four shapes: none; a failed save; a save and the
removal; a save, the tool and the removal. The tool runs at most once, on the saved file,
for one of the three device names `runPFConfig` accepts; the removal follows every
successful save, and the run returns the tool's error whatever the removal did. Nothing
compares the device name with the variant of the file: an ACC100 file can be handed to
the tool as `FPGA_5GNR`.

## Implementation notes

`workdir`, the accelerator table `supportedAccelerators.Devices` and `filepath.Join` are
not part of the repository's files: they are parameters, and no proof looks inside
`join`. A Go map answers `""` for a missing key. `unicodeToLower` keeps the runes outside
its ranges, which Go may lower to other runes; none of those is ASCII, so the comparison of
`token` with `"vfio-pci"` comes out as in Go. The tool may leave a socket file behind; the
model's commands change no file, and no result here reads the files after a command.
-/

namespace SriovFec.Daemon

open SriovFec.Api.V2

/-- `pfBBConfigController`, without its logger. -/
structure PfBBConfigController where
  sharedVfioToken : String

/-- `unicode.ToLower` on the case ranges of ASCII, Latin-1, Latin Extended-A and the basic
Greek and Cyrillic capitals, and on the signs U+0130, U+212A and U+212B; every other rune
is kept. -/
def unicodeToLower (c : Char) : Char :=
  let n := c.toNat
  if 0x41 ≤ n ∧ n ≤ 0x5A ∨ 0xC0 ≤ n ∧ n ≤ 0xDE ∧ n ≠ 0xD7 ∨ 0x391 ≤ n ∧ n ≤ 0x3AB ∧ n ≠ 0x3A2 ∨
      0x410 ≤ n ∧ n ≤ 0x42F then Char.ofNat (n + 0x20)
  else if 0x400 ≤ n ∧ n ≤ 0x40F then Char.ofNat (n + 0x50)
  else if (0x100 ≤ n ∧ n ≤ 0x12F ∨ 0x132 ≤ n ∧ n ≤ 0x137 ∨ 0x14A ≤ n ∧ n ≤ 0x177) ∧ n % 2 = 0 ∨
      (0x139 ≤ n ∧ n ≤ 0x148 ∨ 0x179 ≤ n ∧ n ≤ 0x17E) ∧ n % 2 = 1 then Char.ofNat (n + 1)
  else if n = 0x130 then 'i'
  else if n = 0x178 then Char.ofNat 0xFF
  else if n = 0x212A then 'k'
  else if n = 0x212B then Char.ofNat 0xE5
  else c

/-- `strings.ToLower`: `unicode.ToLower` on every rune. -/
def toLower (s : String) : String := ⟨s.data.map unicodeToLower⟩

example : toLower "VF\u0130O-PC\u0130" = "vfio-pci" := by decide

/-- The device names the switch of `runPFConfig` accepts. -/
def pfConfigDevices : List String := ["FPGA_LTE", "FPGA_5GNR", "ACC100"]

/-- `runPFConfig`. -/
def runPFConfig (deviceName cfgFilepath pciAddress : String) (token : Option String) (h : Host) :
    Option GoError × Host :=
  if deviceName ∈ pfConfigDevices then
    match token with
    | none => runExecCmd [pfConfigAppFilepath, deviceName, "-c", cfgFilepath, "-p", pciAddress] h
    | some token =>
        runExecCmd [pfConfigAppFilepath, deviceName, "-c", cfgFilepath, "-v", token, "-p", pciAddress] h
  else (some (.text ("incorrect deviceName for pf config: " ++ deviceName)), h)

/-- The command line `runPFConfig` runs: the token goes before `-p`. -/
def pfConfigArgs (deviceName cfgFilepath pciAddress : String) (token : Option String) : List String :=
  [pfConfigAppFilepath, deviceName, "-c", cfgFilepath] ++ (token.map fun t => ["-v", t]).getD [] ++
    ["-p", pciAddress]

theorem runPFConfig_eq (deviceName cfgFilepath pciAddress : String) (token : Option String) (h : Host) :
    runPFConfig deviceName cfgFilepath pciAddress token h =
      if deviceName ∈ pfConfigDevices then runExecCmd (pfConfigArgs deviceName cfgFilepath pciAddress token) h
      else (some (.text ("incorrect deviceName for pf config: " ++ deviceName)), h) := by
  unfold runPFConfig
  split_ifs
  · cases token <;> rfl
  · rfl

/-- The `execAndSuppress` filter of `stopPfBBConfig`: `pkill` found no process. -/
def pkillFoundNothing (e : GoError) : Bool := e == .exitError 1

/-- `stopPfBBConfig`: the socket file is removed whatever `pkill` did, and a failed removal
returns `nil`. -/
def stopPfBBConfig (pciAddress : String) (h : Host) : Option GoError × Host :=
  let r := execAndSuppress ["chroot", "/host/", "pkill", "-9", "-f", "pf_bb_config.*" ++ pciAddress]
    pkillFoundNothing h
  let sockFileToBeDeleted := "/tmp/pf_bb_config." ++ pciAddress ++ ".sock"
  match remove sockFileToBeDeleted r.2 with
  | (some _, h) => (none, h)
  | (none, h) => (r.1, h)

/-- `stopPfBBConfig` runs `pkill`, then removes the socket file, whatever either returns. -/
theorem stopPfBBConfig_events (pciAddress : String) (h : Host) :
    ∃ e r, (stopPfBBConfig pciAddress h).2.events = h.events ++
      [⟨.exec ["chroot", "/host/", "pkill", "-9", "-f", "pf_bb_config.*" ++ pciAddress], e⟩,
        ⟨.remove ("/tmp/pf_bb_config." ++ pciAddress ++ ".sock"), r⟩] := by
  have hs : (stopPfBBConfig pciAddress h).2 = (remove ("/tmp/pf_bb_config." ++ pciAddress ++ ".sock")
      (execAndSuppress ["chroot", "/host/", "pkill", "-9", "-f", "pf_bb_config.*" ++ pciAddress]
        pkillFoundNothing h).2).2 := by
    unfold stopPfBBConfig
    dsimp only
    split <;> next heq => rw [heq]
  rw [hs, remove_events, execAndSuppress_host, runExecCmd_events, List.append_assoc]
  exact ⟨_, _, rfl⟩

/-! ### What `pkill -f` matches

`pkill -f` searches the command line of each process, its arguments joined by spaces, for
its pattern, a POSIX extended regular expression. The patterns here are made of literal
characters, `.` (any character) and `.*`. -/

/-- The command line `pkill -f` reads. -/
def commandLine (args : List String) : String := " ".intercalate args

/-- Whether the pattern `p` matches a prefix of `s`. -/
def matchHere : List Char → List Char → Bool
  | [], _ => true
  | '.' :: '*' :: p, s => s.tails.any (matchHere p)
  | _ :: _, [] => false
  | c :: p, d :: s => (c == '.' || c == d) && matchHere p s

/-- Whether the pattern `p` matches somewhere in `s`. -/
def searchMatch (p s : List Char) : Bool := s.tails.any (matchHere p)

theorem searchMatch_of_matchHere {p s : List Char} (u : List Char) (h : matchHere p s = true) :
    searchMatch p (u ++ s) = true :=
  List.any_eq_true.2 ⟨s, (List.mem_tails _ _).2 (List.suffix_append u s), h⟩

theorem matchHere_dotStar {p s : List Char} (v : List Char) (h : matchHere p s = true) :
    matchHere ('.' :: '*' :: p) (v ++ s) = true := by
  rw [matchHere]
  exact searchMatch_of_matchHere v h

/-- Literal characters other than `.` match only themselves. -/
theorem matchHere_append_literal (l : List Char) (hl : ∀ c ∈ l, c ≠ '.') (p s : List Char) :
    matchHere (l ++ p) (l ++ s) = matchHere p s := by
  induction l with
  | nil => rfl
  | cons c l ih =>
      have hc : c ≠ '.' := hl c (.head _)
      rw [List.cons_append, List.cons_append, ← ih fun c' h' => hl c' (.tail _ h')]
      simp [matchHere, hc]

/-- A pattern with no `*` matches itself. -/
theorem matchHere_self (l : List Char) (hl : ∀ c ∈ l, c ≠ '*') (s : List Char) :
    matchHere l (l ++ s) = true := by
  induction l with
  | nil => rfl
  | cons c l ih =>
      have ih' := ih fun c' h' => hl c' (.tail _ h')
      cases l with
      | nil => simp [matchHere]
      | cons c' l =>
          have hc' : c' ≠ '*' := hl c' (.tail _ (.head _))
          simpa [matchHere, hc'] using ih'

theorem commandLine_data (a last : String) (mid : List String) :
    ∃ v, (commandLine (a :: (mid ++ [last]))).data = a.data ++ v ++ last.data := by
  suffices ∀ acc, ∃ v, (String.intercalate.go acc " " (mid ++ [last])).data = acc.data ++ v ++ last.data from
    this a
  induction mid with
  | nil => exact fun acc => ⟨[' '], rfl⟩
  | cons b mid ih =>
      intro acc
      obtain ⟨v, hv⟩ := ih (acc ++ " " ++ b)
      exact ⟨' ' :: b.data ++ v, by
        rw [List.cons_append, String.intercalate.go, hv]
        simp⟩

section Controller

variable (workdir : String) (join : String → String → String) (devices : List (String × String))
  (p : PfBBConfigController)

/-- `bbdevConfigFilepath` of `initializePfBBConfig`: `<pciAddress>.ini` in `workdir`. -/
def bbdevConfigFilepath (pf : PhysicalFunctionConfigExt) : String :=
  join workdir (pf.pciAddress ++ ".ini")

/-- `supportedAccelerators.Devices[acc.DeviceID]`. -/
def deviceName (acc : SriovAccelerator) : String := ((devices.lookup acc.deviceID).getD "")

/-- The token of `initializePfBBConfig`: the shared one for a function bound to `vfio-pci`. -/
def token (pf : PhysicalFunctionConfigExt) : Option String :=
  if toLower pf.pfDriver = toLower "vfio-pci" then some p.sharedVfioToken else none

/-- `initializePfBBConfig`; the deferred `os.Remove` runs after `runPFConfig` returns and its
error is only logged. -/
def initializePfBBConfig (acc : SriovAccelerator) (pf : PhysicalFunctionConfigExt) (h : Host) :
    Option GoError × Host :=
  if pf.bbDevConfig.n3000.isSome || pf.bbDevConfig.acc100.isSome then
    match generateBBDevConfigFile pf.bbDevConfig (bbdevConfigFilepath workdir join pf) h with
    | (some err, h) => (some err, h)
    | (none, h) =>
        let r := runPFConfig (deviceName devices acc) (bbdevConfigFilepath workdir join pf)
          pf.pciAddress (token p pf) h
        (r.1, (remove (bbdevConfigFilepath workdir join pf) r.2).2)
  else (none, h)

end Controller

/-! ### A node with an ACC100 card and an N3000 5G card -/

/-- `filepath.Join` on a directory without a trailing slash. -/
def joinPath (dir name : String) : String := dir ++ "/" ++ name

/-- An accelerator table naming the device of an N3000 5G card. -/
def fpga5gnrTable : List (String × String) := [("0d8f", "FPGA_5GNR"), ("0d5c", "ACC100")]

/-- Eight queue groups, two in each direction. -/
def acc100Sample : ACC100BBDevConfig :=
  ⟨false, 16, 1024, ⟨2, 16, 4⟩, ⟨2, 16, 4⟩, ⟨2, 16, 4⟩, ⟨2, 16, 4⟩⟩

/-- A physical function with an ACC100 config, bound to `igb_uio`. -/
def acc100Function : PhysicalFunctionConfigExt := ⟨"0000:af:00.0", "igb_uio", ⟨none, some acc100Sample⟩⟩

/-- The same function bound to `vfio-pci`, named in capitals. -/
def vfioFunction : PhysicalFunctionConfigExt := { acc100Function with pfDriver := "VFIO-PCI" }

/-- The runs of `initializePfBBConfig`, by their effects on the node and their result: the
file at `path` is saved, then the tool may run with `args` for `deviceName`, then the file
is removed. `capacityOk` is what a saved file says of the config. -/
inductive PfConfigRun (path deviceName : String) (args : List String) (capacityOk : Prop) :
    List Event → Option GoError → Prop
  | noEffect (err : Option GoError) : PfConfigRun path deviceName args capacityOk [] err
  | saveFailed (cfg : IniFile) (e : GoError) (err : Option GoError) :
      PfConfigRun path deviceName args capacityOk [⟨.save path cfg, some e⟩] err
  | badDevice (cfg : IniFile) (r : Option GoError) (hcap : capacityOk)
      (hdev : deviceName ∉ pfConfigDevices) :
      PfConfigRun path deviceName args capacityOk [⟨.save path cfg, none⟩, ⟨.remove path, r⟩]
        (some (.text ("incorrect deviceName for pf config: " ++ deviceName)))
  | ran (cfg : IniFile) (e r : Option GoError) (hcap : capacityOk) (hdev : deviceName ∈ pfConfigDevices) :
      PfConfigRun path deviceName args capacityOk
        [⟨.save path cfg, none⟩, ⟨.exec args, e⟩, ⟨.remove path, r⟩] e

section Runs

variable (workdir : String) (join : String → String → String) (devices : List (String × String))
  (p : PfBBConfigController) (acc : SriovAccelerator) (pf : PhysicalFunctionConfigExt) (h : Host)

/-- Every run of `initializePfBBConfig` is a `PfConfigRun` of its file, device name and
command line, whatever the node fails. -/
theorem initializePfBBConfig_run :
    ∃ new, (initializePfBBConfig workdir join devices p acc pf h).2.events = h.events ++ new ∧
      PfConfigRun (bbdevConfigFilepath workdir join pf) (deviceName devices acc)
        (pfConfigArgs (deviceName devices acc) (bbdevConfigFilepath workdir join pf) pf.pciAddress
          (token p pf))
        (∀ nc, pf.bbDevConfig.acc100 = some nc → maxQueueGroups.slt (totalQueueGroups nc) = false)
        new (initializePfBBConfig workdir join devices p acc pf h).1 := by
  unfold initializePfBBConfig
  split_ifs with hcfg
  · rcases generateBBDevConfigFile_saves pf.bbDevConfig (bbdevConfigFilepath workdir join pf) h with
      ⟨hs, hh⟩ | ⟨cfg, -, hcap, hh, hok⟩
    · obtain ⟨e, he⟩ := Option.isSome_iff_exists.1 hs
      rw [show generateBBDevConfigFile pf.bbDevConfig (bbdevConfigFilepath workdir join pf) h = (some e, h)
        from Prod.ext he hh]
      exact ⟨[], by simp, .noEffect _⟩
    · generalize generateBBDevConfigFile pf.bbDevConfig (bbdevConfigFilepath workdir join pf) h = g at hh hok
      rcases g with ⟨_ | e, h1⟩
      · have hev : h1.events = h.events ++ [⟨.save (bbdevConfigFilepath workdir join pf) cfg, none⟩] := by
          rw [show h1 = _ from hh, saveTo_events, hok.1 rfl]
        simp only [runPFConfig_eq]
        split_ifs with hdev
        · exact ⟨_, by simp only [remove_events, runExecCmd_events, hev, List.append_assoc]; rfl,
            .ran cfg _ _ hcap hdev⟩
        · exact ⟨_, by simp only [remove_events, hev, List.append_assoc]; rfl, .badDevice cfg _ hcap hdev⟩
      · obtain ⟨e', he'⟩ := Option.ne_none_iff_exists'.1 fun h0 => by simpa using hok.2 h0
        exact ⟨_, by rw [show h1 = _ from hh, saveTo_events, he'], .saveFailed cfg e' _⟩
  · exact ⟨[], by simp, .noEffect _⟩

/-- The one command a run of `initializePfBBConfig` runs is the tool's, for its device name,
config file, token and PCI address. -/
theorem initializePfBBConfig_exec_args (args : List String) (err : Option GoError)
    (hmem : ⟨.exec args, err⟩ ∈ (initializePfBBConfig workdir join devices p acc pf h).2.events)
    (hnew : ⟨.exec args, err⟩ ∉ h.events) :
    args = pfConfigArgs (deviceName devices acc) (bbdevConfigFilepath workdir join pf) pf.pciAddress
      (token p pf) := by
  obtain ⟨new, hev, hrun⟩ := initializePfBBConfig_run workdir join devices p acc pf h
  rw [hev] at hmem
  have hmem' := (List.mem_append.1 hmem).resolve_left hnew
  generalize (initializePfBBConfig workdir join devices p acc pf h).1 = res at hrun
  cases hrun with
  | noEffect _ => cases hmem'
  | saveFailed _ _ _ => simp at hmem'
  | badDevice _ _ _ _ => simp at hmem'
  | ran cfg e r _ _ =>
      simp only [List.mem_cons, Event.mk.injEq, reduceCtorEq, false_and, Effect.exec.injEq,
        List.not_mem_nil, or_false, false_or] at hmem'
      exact hmem'.1

/-- `stopPfBBConfig` kills the tool `initializePfBBConfig` runs for the same function: for a
PCI address written with letters, digits, `:` and `.`, the pattern it gives `pkill -f`
matches the command line of every run of the tool for that address. -/
theorem stopPfBBConfig_matches_run (args : List String) (err : Option GoError) (h' : Host)
    (hmem : ⟨.exec args, err⟩ ∈ (initializePfBBConfig workdir join devices p acc pf h).2.events)
    (hnew : ⟨.exec args, err⟩ ∉ h.events)
    (hpci : ∀ c ∈ pf.pciAddress.data, c.isAlphanum ∨ c = ':' ∨ c = '.') :
    ∃ pattern e, ⟨.exec ["chroot", "/host/", "pkill", "-9", "-f", pattern], e⟩ ∈
        (stopPfBBConfig pf.pciAddress h').2.events ∧
      searchMatch pattern.data (commandLine args).data = true := by
  obtain ⟨e, r, hev⟩ := stopPfBBConfig_events pf.pciAddress h'
  refine ⟨"pf_bb_config.*" ++ pf.pciAddress, e, by simp [hev], ?_⟩
  have hargs : args = pfConfigAppFilepath :: (([deviceName devices acc, "-c",
      bbdevConfigFilepath workdir join pf] ++ ((token p pf).map fun t => ["-v", t]).getD [] ++ ["-p"]) ++
      [pf.pciAddress]) := by
    rw [initializePfBBConfig_exec_args workdir join devices p acc pf h args err hmem hnew, pfConfigArgs]
    simp
  obtain ⟨v, hv⟩ := commandLine_data pfConfigAppFilepath pf.pciAddress _
  have hstar : ∀ c ∈ pf.pciAddress.data, c ≠ '*' := fun c hc hs => by
    subst hs
    exact absurd (hpci _ hc) (by decide)
  have hpat : ("pf_bb_config.*" ++ pf.pciAddress).data =
      "pf_bb_config".data ++ '.' :: '*' :: pf.pciAddress.data := by
    rw [String.data_append]
    rfl
  have happ : pfConfigAppFilepath.data = "/sriov_workdir/".data ++ "pf_bb_config".data := rfl
  rw [hargs, hv, hpat, happ, List.append_assoc, List.append_assoc]
  apply searchMatch_of_matchHere
  rw [matchHere_append_literal _ (by decide)]
  exact matchHere_dotStar v (by simpa using matchHere_self _ hstar [])

/-- The ACC100 function bound to `vfio-pci`, at `0000:af:00.0`. -/
theorem stop_matches_vfio_run :
    ((⟨.exec [pfConfigAppFilepath, "ACC100", "-c", "/sriov_workdir/0000:af:00.0.ini", "-v", "token", "-p",
        "0000:af:00.0"], none⟩ ∈
        (initializePfBBConfig "/sriov_workdir" joinPath fpga5gnrTable ⟨"token"⟩ ⟨"0d5c"⟩ vfioFunction
          quietHost).2.events ∧
      (⟨.exec [pfConfigAppFilepath, "ACC100", "-c", "/sriov_workdir/0000:af:00.0.ini", "-v", "token", "-p",
        "0000:af:00.0"], none⟩ : Event) ∉ quietHost.events) ∧
      ∀ c ∈ vfioFunction.pciAddress.data, c.isAlphanum ∨ c = ':' ∨ c = '.') ∧
    ∃ pattern e, ⟨.exec ["chroot", "/host/", "pkill", "-9", "-f", pattern], e⟩ ∈
        (stopPfBBConfig vfioFunction.pciAddress quietHost).2.events ∧
      searchMatch pattern.data (commandLine [pfConfigAppFilepath, "ACC100", "-c", "/sriov_workdir/0000:af:00.0.ini",
        "-v", "token", "-p", "0000:af:00.0"]).data = true :=
  have hm : (⟨.exec [pfConfigAppFilepath, "ACC100", "-c", "/sriov_workdir/0000:af:00.0.ini", "-v", "token",
      "-p", "0000:af:00.0"], none⟩ : Event) ∈
      (initializePfBBConfig "/sriov_workdir" joinPath fpga5gnrTable ⟨"token"⟩ ⟨"0d5c"⟩ vfioFunction
        quietHost).2.events := by decide
  have hn : (⟨.exec [pfConfigAppFilepath, "ACC100", "-c", "/sriov_workdir/0000:af:00.0.ini", "-v", "token",
      "-p", "0000:af:00.0"], none⟩ : Event) ∉ quietHost.events := List.not_mem_nil _
  have hpci : ∀ c ∈ vfioFunction.pciAddress.data, c.isAlphanum ∨ c = ':' ∨ c = '.' := by decide
  ⟨⟨⟨hm, hn⟩, hpci⟩, stopPfBBConfig_matches_run _ _ _ _ _ _ _ _ _ quietHost hm hn hpci⟩

end Runs

end SriovFec.Daemon
