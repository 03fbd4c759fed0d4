import SriovFec.Daemon.Host
import Mathlib.Algebra.Group.Int

/-!
# Generating the bbdev config file

`generateBBDevConfigFile` writes the ini file `pf_bb_config` reads for a card: the N3000
variant, or the ACC100 variant after its capacity check. Both make their sections, set
their keys, log the file and save it; the save is the only effect on the node.

The capacity check adds the four queue-group counts as Go `int`s and compares the wrapped
sum with `maxQueueGroups`. It rejects exactly the configs whose sum, reduced into the
64-bit signed range, exceeds 8: when the exact sum fits in a Go `int` that is the intended
check, and four counts of `2^62` sum to `2^64`, which wraps to `0` and passes.
-/

namespace SriovFec.Daemon

open SriovFec.Api.V2

/-! ### The constants of `bbdevconfig.go` -/

def ul : String := "UL"
def dl : String := "DL"
def flr : String := "FLR"
def bandwidth : String := "bandwidth"
def loadBalance : String := "load_balance"
def vfqmap : String := "vfqmap"
def flrTimeOut : String := "flr_time_out"
def vfbundles : String := "VFBUNDLES"
def maxqsize : String := "MAXQSIZE"
def uplink4g : String := "QUL4G"
def downlink4g : String := "QDL4G"
def uplink5g : String := "QUL5G"
def downlink5g : String := "QDL5G"
def numVfBundles : String := "num_vf_bundles"
def maxQueueSize : String := "max_queue_size"
def numQgroups : String := "num_qgroups"
def numAqsPerGroups : String := "num_aqs_per_groups"
def aqDepthLog2 : String := "aq_depth_log2"
def maxQueueGroups : BitVec 64 := 8
def mode : String := "MODE"
def pfModeEn : String := "pf_mode_en"
def pfConfigAppFilepath : String := "/sriov_workdir/pf_bb_config"

/-! ### The generators -/

/-- `logBBDevConfigFile`: writing the file to a `bytes.Buffer` never fails, and the log
line is not modelled. -/
def logBBDevConfigFile (_cfg : IniFile) : Option GoError := none

/-- The end both generators share: log the file, then save it. -/
def saveBBDevConfigFile (cfg : IniFile) (file : String) (h : Host) : Option GoError × Host :=
  match logBBDevConfigFile cfg with
  | some err => (some err, h)
  | none =>
      match saveTo cfg file h with
      | (some _, h) => (some (.text ("Unable to write config to file: " ++ file)), h)
      | (none, h) => (none, h)

/-- What both generators do after their checks: make the sections, set the keys, log and
save. -/
def writeBBDevConfigFile (sections : List String) (setValues : IniFile → IniFile) (file : String)
    (h : Host) : Option GoError × Host :=
  match IniFile.empty.newSections sections with
  | .error _ => (some (.text "Unable to create sections in bbdevconfig"), h)
  | .ok cfg => saveBBDevConfigFile (setValues cfg) file h

/-- The `"1"`/`"0"` of `pf_mode_en`. -/
def modeValue (pfMode : Bool) : String := if pfMode then "1" else "0"

/-- The keys `generateN3000BBDevConfigFile` sets, in its order. -/
def n3000Values (nc : N3000BBDevConfig) (cfg : IniFile) : IniFile :=
  let cfg := cfg.setValue mode pfModeEn (modeValue nc.pfMode)
  let cfg := cfg.setValue ul bandwidth (itoa nc.uplink.bandwidth)
  let cfg := cfg.setValue ul loadBalance (itoa nc.uplink.loadBalance)
  let cfg := cfg.setValue ul vfqmap nc.uplink.queues.string
  let cfg := cfg.setValue dl bandwidth (itoa nc.downlink.bandwidth)
  let cfg := cfg.setValue dl loadBalance (itoa nc.downlink.loadBalance)
  let cfg := cfg.setValue dl vfqmap nc.downlink.queues.string
  cfg.setValue flr flrTimeOut (itoa nc.flrTimeOut)

/-- `generateN3000BBDevConfigFile`. -/
def generateN3000BBDevConfigFile (nc : Option N3000BBDevConfig) (file : String) (h : Host) :
    Option GoError × Host :=
  match nc with
  | none => (some (.text "received nil N3000BBDevConfig"), h)
  | some nc => writeBBDevConfigFile [mode, ul, dl, flr] (n3000Values nc) file h

/-- The keys of one ACC100 queue-group section. -/
def queueGroupValues (sec : String) (q : QueueGroupConfig) (cfg : IniFile) : IniFile :=
  let cfg := cfg.setValue sec numQgroups (itoa q.numQueueGroups)
  let cfg := cfg.setValue sec numAqsPerGroups (itoa q.numAqsPerGroups)
  cfg.setValue sec aqDepthLog2 (itoa q.aqDepthLog2)

/-- The keys `generateACC100BBDevConfigFile` sets, in its order. -/
def acc100Values (nc : ACC100BBDevConfig) (cfg : IniFile) : IniFile :=
  let cfg := cfg.setValue mode pfModeEn (modeValue nc.pfMode)
  let cfg := cfg.setValue vfbundles numVfBundles (itoa nc.numVfBundles)
  let cfg := cfg.setValue maxqsize maxQueueSize (itoa nc.maxQueueSize)
  let cfg := queueGroupValues uplink4g nc.uplink4G cfg
  let cfg := queueGroupValues downlink4g nc.downlink4G cfg
  let cfg := queueGroupValues uplink5g nc.uplink5G cfg
  queueGroupValues downlink5g nc.downlink5G cfg

/-- `totalQueueGroups` of `generateACC100BBDevConfigFile`: the 4G total plus the 5G total,
each a Go `int`. -/
def totalQueueGroups (nc : ACC100BBDevConfig) : BitVec 64 :=
  let total4GQueueGroups := nc.uplink4G.numQueueGroups + nc.downlink4G.numQueueGroups
  let total5GQueueGroups := nc.uplink5G.numQueueGroups + nc.downlink5G.numQueueGroups
  total4GQueueGroups + total5GQueueGroups

/-- The error of the capacity check. -/
def queueGroupsExceeded : GoError :=
  .text ("Total number of requested queue groups (4G/5G) exceeds the maximum (" ++
    toString maxQueueGroups.toInt ++ ")")

/-- `generateACC100BBDevConfigFile`; `totalQueueGroups > maxQueueGroups` compares signed
words. -/
def generateACC100BBDevConfigFile (nc : Option ACC100BBDevConfig) (file : String) (h : Host) :
    Option GoError × Host :=
  match nc with
  | none => (some (.text "received nil ACC100BBDevConfig"), h)
  | some nc =>
      if maxQueueGroups.slt (totalQueueGroups nc) then (some queueGroupsExceeded, h)
      else writeBBDevConfigFile [mode, vfbundles, maxqsize, uplink4g, downlink4g, uplink5g, downlink5g]
        (acc100Values nc) file h

/-- `generateBBDevConfigFile`: the ACC100 variant when it is set, else the N3000 one. -/
def generateBBDevConfigFile (pfCfg : BBDevConfig) (file : String) (h : Host) :
    Option GoError × Host :=
  match pfCfg.acc100, pfCfg.n3000 with
  | some nc, _ =>
      match generateACC100BBDevConfigFile (some nc) file h with
      | (some err, h) => (some (.text ("ACC100 config file creation failed, " ++ err.error)), h)
      | (none, h) => (none, h)
  | none, some nc =>
      match generateN3000BBDevConfigFile (some nc) file h with
      | (some err, h) => (some (.text ("N3000 config file creation failed, " ++ err.error)), h)
      | (none, h) => (none, h)
  | none, none => (some (.text "Received nil configs"), h)

/-! ### The artifacts -/

/-- The N3000 artifact the spec describes: `MODE`, then `UL` and `DL` with bandwidth, load
balance and queue map, then `FLR`. -/
def n3000Artifact (nc : N3000BBDevConfig) : IniFile :=
  ⟨[⟨mode, [(pfModeEn, modeValue nc.pfMode)]⟩,
    ⟨ul, [(bandwidth, itoa nc.uplink.bandwidth), (loadBalance, itoa nc.uplink.loadBalance),
      (vfqmap, nc.uplink.queues.string)]⟩,
    ⟨dl, [(bandwidth, itoa nc.downlink.bandwidth), (loadBalance, itoa nc.downlink.loadBalance),
      (vfqmap, nc.downlink.queues.string)]⟩,
    ⟨flr, [(flrTimeOut, itoa nc.flrTimeOut)]⟩]⟩

/-- The section of one ACC100 queue group. -/
def queueGroupSection (sec : String) (q : QueueGroupConfig) : IniSection :=
  ⟨sec, [(numQgroups, itoa q.numQueueGroups), (numAqsPerGroups, itoa q.numAqsPerGroups),
    (aqDepthLog2, itoa q.aqDepthLog2)]⟩

/-- The ACC100 artifact the spec describes: `MODE`, the bundle count, the queue size, then
the four queue groups. -/
def acc100Artifact (nc : ACC100BBDevConfig) : IniFile :=
  ⟨[⟨mode, [(pfModeEn, modeValue nc.pfMode)]⟩, ⟨vfbundles, [(numVfBundles, itoa nc.numVfBundles)]⟩,
    ⟨maxqsize, [(maxQueueSize, itoa nc.maxQueueSize)]⟩, queueGroupSection uplink4g nc.uplink4G,
    queueGroupSection downlink4g nc.downlink4G, queueGroupSection uplink5g nc.uplink5G,
    queueGroupSection downlink5g nc.downlink5G]⟩

theorem n3000Values_sections (nc : N3000BBDevConfig) :
    n3000Values nc ⟨[mode, ul, dl, flr].map (⟨·, []⟩)⟩ = n3000Artifact nc := by
  simp only [n3000Values, IniFile.setValue, IniFile.setKey, List.map_cons, List.map_nil, List.any_cons,
    List.any_nil, mode, ul, dl, flr, pfModeEn, bandwidth, loadBalance, vfqmap, flrTimeOut,
    String.reduceBEq, String.reduceEq, List.cons_append, List.nil_append, Bool.or_false, Bool.false_or,
    Bool.or_true, ↓reduceIte, Bool.false_eq_true]
  rfl

theorem acc100Values_sections (nc : ACC100BBDevConfig) :
    acc100Values nc ⟨[mode, vfbundles, maxqsize, uplink4g, downlink4g, uplink5g, downlink5g].map (⟨·, []⟩)⟩ =
      acc100Artifact nc := by
  simp only [acc100Values, queueGroupValues, IniFile.setValue, IniFile.setKey, List.map_cons, List.map_nil,
    List.any_cons, List.any_nil, mode, vfbundles, maxqsize, uplink4g, downlink4g, uplink5g, downlink5g,
    pfModeEn, numVfBundles, maxQueueSize, numQgroups, numAqsPerGroups, aqDepthLog2,
    String.reduceBEq, String.reduceEq, List.cons_append, List.nil_append, Bool.or_false, Bool.false_or,
    Bool.or_true, ↓reduceIte, Bool.false_eq_true]
  rfl

/-- An N3000 config is saved as its artifact. -/
theorem generateN3000BBDevConfigFile_some (nc : N3000BBDevConfig) (file : String) (h : Host) :
    generateN3000BBDevConfigFile (some nc) file h = saveBBDevConfigFile (n3000Artifact nc) file h := by
  rw [generateN3000BBDevConfigFile, writeBBDevConfigFile,
    IniFile.empty_newSections (by decide) (by decide), ← n3000Values_sections]

/-- An ACC100 config that passes the capacity check is saved as its artifact. -/
theorem generateACC100BBDevConfigFile_some (nc : ACC100BBDevConfig) (file : String) (h : Host) :
    generateACC100BBDevConfigFile (some nc) file h =
      if maxQueueGroups.slt (totalQueueGroups nc) then (some queueGroupsExceeded, h)
      else saveBBDevConfigFile (acc100Artifact nc) file h := by
  rw [generateACC100BBDevConfigFile, writeBBDevConfigFile,
    IniFile.empty_newSections (by decide) (by decide), ← acc100Values_sections]

/-! ### The save -/

section Save

variable {cfg : IniFile} {file : String} {h : Host}

/-- The save's error, if any, is reported as a failed write. -/
theorem saveBBDevConfigFile_eq (cfg file h) :
    saveBBDevConfigFile cfg file h =
      ((saveTo cfg file h).1.map fun _ => .text ("Unable to write config to file: " ++ file),
        (saveTo cfg file h).2) := by
  simp only [saveBBDevConfigFile, logBBDevConfigFile]
  rcases saveTo cfg file h with ⟨_ | _, h'⟩ <;> rfl

end Save

/-! ### The capacity check -/

/-- The four queue-group counts added as integers: what the capacity check is meant to
bound. -/
def queueGroupsRequested (nc : ACC100BBDevConfig) : Int :=
  nc.uplink4G.numQueueGroups.toInt + nc.downlink4G.numQueueGroups.toInt +
    (nc.uplink5G.numQueueGroups.toInt + nc.downlink5G.numQueueGroups.toInt)

/-- The Go sum is the integer sum reduced into the signed 64-bit range. -/
theorem totalQueueGroups_toInt (nc : ACC100BBDevConfig) :
    (totalQueueGroups nc).toInt = (queueGroupsRequested nc).bmod (2 ^ 64) := by
  simp only [totalQueueGroups, queueGroupsRequested, BitVec.toInt_add]
  rw [Int.bmod_add_bmod_congr, Int.add_bmod_bmod]

/-- A sum that fits in a Go `int` is its own reduction. -/
theorem bmod_of_fits {s : Int} (hlo : -2 ^ 63 ≤ s) (hhi : s < 2 ^ 63) : s.bmod (2 ^ 64) = s := by
  rw [Int.bmod_def]
  have : ((2 ^ 64 : Nat) : Int) = 18446744073709551616 := rfl
  rw [this]
  split <;> omega

theorem saveBBDevConfigFile_ne_queueGroupsExceeded (cfg file h) :
    (saveBBDevConfigFile cfg file h).1 ≠ some queueGroupsExceeded := by
  rw [saveBBDevConfigFile_eq]
  cases (saveTo cfg file h).1 with
  | none => simp
  | some e =>
      simp only [Option.map_some', ne_eq, Option.some.injEq, queueGroupsExceeded, GoError.text.injEq]
      intro heq
      have := congrArg (fun s : String => s.data.head?) heq
      simp at this

/-- The capacity check rejects, with no effect on the node, exactly when the Go sum read as a
signed word exceeds 8. -/
theorem rejects_iff_toInt (nc : ACC100BBDevConfig) (file : String) (h : Host) :
    generateACC100BBDevConfigFile (some nc) file h = (some queueGroupsExceeded, h) ↔
      8 < (totalQueueGroups nc).toInt := by
  rw [generateACC100BBDevConfigFile_some]
  have hslt : maxQueueGroups.slt (totalQueueGroups nc) = decide (8 < (totalQueueGroups nc).toInt) := rfl
  by_cases hc : 8 < (totalQueueGroups nc).toInt
  · simp [hslt, hc]
  · simp only [hslt, hc, decide_False, Bool.false_eq_true, ↓reduceIte, iff_false]
    exact fun heq => saveBBDevConfigFile_ne_queueGroupsExceeded _ _ _ (congrArg Prod.fst heq)

/-- Four queue groups of `2^62` each, whose sum `2^64` wraps to `0`. -/
def wrappingQueueGroup : QueueGroupConfig := ⟨BitVec.ofNat 64 (2 ^ 62), 16, 4⟩

def wrappingConfig : ACC100BBDevConfig :=
  ⟨false, 16, 1024, wrappingQueueGroup, wrappingQueueGroup, wrappingQueueGroup, wrappingQueueGroup⟩

/-- A node with no file that fails nothing. -/
def quietHost : Host := ⟨fun _ => none, fun _ => none, []⟩

/-- The capacity check passes a config asking for `2^64` queue groups, and the artifact is
written. -/
theorem wrapped_queueGroups_pass_capacity_check :
    queueGroupsRequested wrappingConfig = 2 ^ 64 ∧
      (generateACC100BBDevConfigFile (some wrappingConfig) "/sriov_workdir/0000:af:00.0.ini"
        quietHost).1 = none ∧
      (generateBBDevConfigFile ⟨none, some wrappingConfig⟩ "/sriov_workdir/0000:af:00.0.ini"
        quietHost).1 = none ∧
      (generateBBDevConfigFile ⟨none, some wrappingConfig⟩ "/sriov_workdir/0000:af:00.0.ini"
        quietHost).2.files "/sriov_workdir/0000:af:00.0.ini" = some (acc100Artifact wrappingConfig) := by
  decide

/-- When the exact sum of the queue groups fits in a Go `int`, the capacity check rejects,
with no effect on the node, exactly the configs asking for more than 8. -/
theorem generateACC100BBDevConfigFile_rejects_iff_of_fits (nc : ACC100BBDevConfig) (file : String)
    (h : Host) (hlo : -2 ^ 63 ≤ queueGroupsRequested nc) (hhi : queueGroupsRequested nc < 2 ^ 63) :
    generateACC100BBDevConfigFile (some nc) file h = (some queueGroupsExceeded, h) ↔
      8 < queueGroupsRequested nc := by
  rw [rejects_iff_toInt, totalQueueGroups_toInt, bmod_of_fits hlo hhi]

/-- Queue groups of 3, 2, 2 and 2: nine in all. -/
def nineQueueGroups : ACC100BBDevConfig :=
  ⟨false, 16, 1024, ⟨3, 16, 4⟩, ⟨2, 16, 4⟩, ⟨2, 16, 4⟩, ⟨2, 16, 4⟩⟩

theorem nine_queueGroups_rejected :
    (-2 ^ 63 ≤ queueGroupsRequested nineQueueGroups ∧ queueGroupsRequested nineQueueGroups < 2 ^ 63) ∧
      generateACC100BBDevConfigFile (some nineQueueGroups) "/sriov_workdir/0000:af:00.0.ini" quietHost =
        (some queueGroupsExceeded, quietHost) :=
  have hlo : -2 ^ 63 ≤ queueGroupsRequested nineQueueGroups := by decide
  have hhi : queueGroupsRequested nineQueueGroups < 2 ^ 63 := by decide
  ⟨⟨hlo, hhi⟩, (generateACC100BBDevConfigFile_rejects_iff_of_fits _ _ _ hlo hhi).2 (by decide)⟩

/-! ### What a generation does to the node -/

section Generate

variable {pfCfg : BBDevConfig} {file : String} {h : Host}

theorem generateBBDevConfigFile_of_acc100 {nc : ACC100BBDevConfig} (hacc : pfCfg.acc100 = some nc) :
    generateBBDevConfigFile pfCfg file h =
      ((generateACC100BBDevConfigFile (some nc) file h).1.map fun err =>
          .text ("ACC100 config file creation failed, " ++ err.error),
        (generateACC100BBDevConfigFile (some nc) file h).2) := by
  unfold generateBBDevConfigFile
  split
  · next _ _ nc' hacc' =>
      obtain rfl := Option.some.inj (hacc'.symm.trans hacc)
      generalize generateACC100BBDevConfigFile (some nc') file h = r
      rcases r with ⟨_ | _, _⟩ <;> rfl
  all_goals simp_all

theorem generateBBDevConfigFile_of_n3000 {nc : N3000BBDevConfig} (hacc : pfCfg.acc100 = none)
    (hn3 : pfCfg.n3000 = some nc) :
    generateBBDevConfigFile pfCfg file h =
      ((generateN3000BBDevConfigFile (some nc) file h).1.map fun err =>
          .text ("N3000 config file creation failed, " ++ err.error),
        (generateN3000BBDevConfigFile (some nc) file h).2) := by
  unfold generateBBDevConfigFile
  split
  · simp_all
  · next _ _ nc' _ hn3' =>
      obtain rfl := Option.some.inj (hn3'.symm.trans hn3)
      generalize generateN3000BBDevConfigFile (some nc') file h = r
      rcases r with ⟨_ | _, _⟩ <;> rfl
  · simp_all

/-- The file `generateBBDevConfigFile` saves for a config: the ACC100 artifact when that
variant is set, else the N3000 one. -/
def bbdevArtifact (pfCfg : BBDevConfig) : Option IniFile :=
  match pfCfg.acc100, pfCfg.n3000 with
  | some nc, _ => some (acc100Artifact nc)
  | none, some nc => some (n3000Artifact nc)
  | none, none => none

/-- What a generation does to the node: nothing, with an error; or one save of the artifact
of its config, an ACC100 one only past the capacity check. -/
theorem generateBBDevConfigFile_saves (pfCfg : BBDevConfig) (file : String) (h : Host) :
    ((generateBBDevConfigFile pfCfg file h).1.isSome ∧ (generateBBDevConfigFile pfCfg file h).2 = h) ∨
    ∃ cfg, bbdevArtifact pfCfg = some cfg ∧
      (∀ nc, pfCfg.acc100 = some nc → maxQueueGroups.slt (totalQueueGroups nc) = false) ∧
      (generateBBDevConfigFile pfCfg file h).2 = (saveTo cfg file h).2 ∧
      ((generateBBDevConfigFile pfCfg file h).1 = none ↔ (saveTo cfg file h).1 = none) := by
  cases hacc : pfCfg.acc100 with
  | some nc =>
      rw [generateBBDevConfigFile_of_acc100 hacc, generateACC100BBDevConfigFile_some]
      by_cases hc : maxQueueGroups.slt (totalQueueGroups nc)
      · simp [hc]
      · refine .inr ⟨acc100Artifact nc, by simp [bbdevArtifact, hacc], fun nc' h' => ?_, ?_, ?_⟩
        · obtain rfl := Option.some.inj h'
          simpa using hc
        · simp [hc, saveBBDevConfigFile_eq]
        · simp [hc, saveBBDevConfigFile_eq]
  | none =>
      cases hn3 : pfCfg.n3000 with
      | some nc =>
          rw [generateBBDevConfigFile_of_n3000 hacc hn3, generateN3000BBDevConfigFile_some]
          refine .inr ⟨n3000Artifact nc, by simp [bbdevArtifact, hacc, hn3], (fun _ h' => nomatch h'), ?_, ?_⟩ <;>
            simp [saveBBDevConfigFile_eq]
      | none =>
          unfold generateBBDevConfigFile
          simp [hacc, hn3]

/-- `generateBBDevConfigFile` either fails with no effect on the node, or is a save to
`file` of the artifact of the variant it picks, an ACC100 one only past the capacity
check, returning `nil` exactly when the save succeeds. -/
theorem generateBBDevConfigFile_cases (pfCfg : BBDevConfig) (file : String) (h : Host) :
    ((generateBBDevConfigFile pfCfg file h).1.isSome ∧ (generateBBDevConfigFile pfCfg file h).2 = h) ∨
    ∃ cfg, (generateBBDevConfigFile pfCfg file h).2 = (saveTo cfg file h).2 ∧
      ((generateBBDevConfigFile pfCfg file h).1 = none ↔ (saveTo cfg file h).1 = none) ∧
      (∀ nc, pfCfg.acc100 = some nc →
        cfg = acc100Artifact nc ∧ maxQueueGroups.slt (totalQueueGroups nc) = false) ∧
      (pfCfg.acc100 = none → ∃ nc, pfCfg.n3000 = some nc ∧ cfg = n3000Artifact nc) := by
  rcases generateBBDevConfigFile_saves pfCfg file h with hfail | ⟨cfg, hart, hcap, hh, hok⟩
  · exact .inl hfail
  · refine .inr ⟨cfg, hh, hok, fun nc hacc => ⟨?_, hcap nc hacc⟩, fun hacc => ?_⟩
    · simpa [bbdevArtifact, hacc, eq_comm] using hart
    · cases hn : pfCfg.n3000 with
      | some nc => exact ⟨nc, rfl, by simpa [bbdevArtifact, hacc, hn, eq_comm] using hart⟩
      | none => simp [bbdevArtifact, hacc, hn] at hart

end Generate

end SriovFec.Daemon
