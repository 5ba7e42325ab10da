/-!
# Device attributes

The catalogue of attributes of a graphics card: for each one its number, the file that holds it
under the device directory of the card, and how the content is read.
-/

namespace GpuManagement

/-- How the content of an attribute is read. -/
inductive ReadKind where
  | hexadecimal
  | decimal
  | multiLine
  | token
  | binary
  deriving DecidableEq, Repr

/-- An attribute of a graphics card. -/
inductive Attribute where
  | perfLevel
  | overDriveLevel
  | devId
  | vendorId
  | subSysDevId
  | subSysVendorId
  | gpuMClk
  | gpuSClk
  | dcefClk
  | fClk
  | socClk
  | pcieClk
  | powerProfileMode
  | usage
  | powerOdVoltage
  | vBiosVer
  | pcieThroughput
  | errCntSdma
  | errCntUmc
  | errCntGfx
  | errCntFeatures
  | memTotGtt
  | memTotVisVram
  | memTotVram
  | memUsedGtt
  | memUsedVisVram
  | memUsedVram
  | vramVendor
  | pcieReplayCount
  | uniqueId
  | dfCountersAvailable
  | memBusyPercent
  | xgmiError
  | fwVersionAsd
  | fwVersionCe
  | fwVersionDmcu
  | fwVersionMc
  | fwVersionMe
  | fwVersionMec
  | fwVersionMec2
  | fwVersionPfp
  | fwVersionRlc
  | fwVersionRlcSrlc
  | fwVersionRlcSrlg
  | fwVersionRlcSrls
  | fwVersionSdma
  | fwVersionSdma2
  | fwVersionSmc
  | fwVersionSos
  | fwVersionTaRas
  | fwVersionTaXgmi
  | fwVersionUvd
  | fwVersionVce
  | fwVersionVcn
  | serialNumber
  | memPageBad
  | numaNode
  | gpuMetrics
  | computePartition
  | memoryPartition
  deriving DecidableEq, Repr

namespace Attribute

/-- The file of an attribute under the device directory, and how it is read. -/
def entry : Attribute → String × ReadKind
  | perfLevel => ("power_dpm_force_performance_level", .token)
  | overDriveLevel => ("pp_sclk_od", .decimal)
  | devId => ("device", .hexadecimal)
  | vendorId => ("vendor", .hexadecimal)
  | subSysDevId => ("subsystem_device", .hexadecimal)
  | subSysVendorId => ("subsystem_vendor", .hexadecimal)
  | gpuMClk => ("pp_dpm_mclk", .multiLine)
  | gpuSClk => ("pp_dpm_sclk", .multiLine)
  | dcefClk => ("pp_dpm_dcefclk", .multiLine)
  | fClk => ("pp_dpm_fclk", .multiLine)
  | socClk => ("pp_dpm_socclk", .multiLine)
  | pcieClk => ("pp_dpm_pcie", .multiLine)
  | powerProfileMode => ("pp_power_profile_mode", .multiLine)
  | usage => ("gpu_busy_percent", .decimal)
  | powerOdVoltage => ("pp_od_clk_voltage", .multiLine)
  | vBiosVer => ("vbios_version", .token)
  | pcieThroughput => ("pcie_bw", .token)
  | errCntSdma => ("ras/sdma_err_count", .multiLine)
  | errCntUmc => ("ras/umc_err_count", .multiLine)
  | errCntGfx => ("ras/gfx_err_count", .multiLine)
  | errCntFeatures => ("ras/features", .hexadecimal)
  | memTotGtt => ("mem_info_gtt_total", .decimal)
  | memTotVisVram => ("mem_info_vis_vram_total", .decimal)
  | memTotVram => ("mem_info_vram_total", .decimal)
  | memUsedGtt => ("mem_info_gtt_used", .decimal)
  | memUsedVisVram => ("mem_info_vis_vram_used", .decimal)
  | memUsedVram => ("mem_info_vram_used", .decimal)
  | vramVendor => ("mem_info_vram_vendor", .token)
  | pcieReplayCount => ("pcie_replay_count", .decimal)
  | uniqueId => ("unique_id", .hexadecimal)
  | dfCountersAvailable => ("df_cntr_avail", .decimal)
  | memBusyPercent => ("mem_busy_percent", .decimal)
  | xgmiError => ("xgmi_error", .decimal)
  | fwVersionAsd => ("fw_version/asd_fw_version", .hexadecimal)
  | fwVersionCe => ("fw_version/ce_fw_version", .hexadecimal)
  | fwVersionDmcu => ("fw_version/dmcu_fw_version", .hexadecimal)
  | fwVersionMc => ("fw_version/mc_fw_version", .hexadecimal)
  | fwVersionMe => ("fw_version/me_fw_version", .hexadecimal)
  | fwVersionMec => ("fw_version/mec_fw_version", .hexadecimal)
  | fwVersionMec2 => ("fw_version/mec2_fw_version", .hexadecimal)
  | fwVersionPfp => ("fw_version/pfp_fw_version", .hexadecimal)
  | fwVersionRlc => ("fw_version/rlc_fw_version", .hexadecimal)
  | fwVersionRlcSrlc => ("fw_version/rlc_srlc_fw_version", .hexadecimal)
  | fwVersionRlcSrlg => ("fw_version/rlc_srlg_fw_version", .hexadecimal)
  | fwVersionRlcSrls => ("fw_version/rlc_srls_fw_version", .hexadecimal)
  | fwVersionSdma => ("fw_version/sdma_fw_version", .hexadecimal)
  | fwVersionSdma2 => ("fw_version/sdma2_fw_version", .hexadecimal)
  | fwVersionSmc => ("fw_version/smc_fw_version", .hexadecimal)
  | fwVersionSos => ("fw_version/sos_fw_version", .hexadecimal)
  | fwVersionTaRas => ("fw_version/ta_ras_fw_version", .hexadecimal)
  | fwVersionTaXgmi => ("fw_version/ta_xgmi_fw_version", .hexadecimal)
  | fwVersionUvd => ("fw_version/uvd_fw_version", .hexadecimal)
  | fwVersionVce => ("fw_version/vce_fw_version", .hexadecimal)
  | fwVersionVcn => ("fw_version/vcn_fw_version", .hexadecimal)
  | serialNumber => ("serial_number", .token)
  | memPageBad => ("ras/gpu_vram_bad_pages", .multiLine)
  | numaNode => ("numa_node", .decimal)
  | gpuMetrics => ("gpu_metrics", .binary)
  | computePartition => ("current_compute_partition", .token)
  | memoryPartition => ("current_memory_partition", .token)

/-- The path of an attribute relative to the device directory. -/
def file (a : Attribute) : String := a.entry.1

/-- How the content of an attribute is read. -/
def kind (a : Attribute) : ReadKind := a.entry.2

/-- All attributes in the order of their numbers. -/
def all : List Attribute :=
  [perfLevel, overDriveLevel, devId, vendorId, subSysDevId, subSysVendorId, gpuMClk, gpuSClk,
    dcefClk, fClk, socClk, pcieClk, powerProfileMode, usage, powerOdVoltage, vBiosVer,
    pcieThroughput, errCntSdma, errCntUmc, errCntGfx, errCntFeatures, memTotGtt, memTotVisVram,
    memTotVram, memUsedGtt, memUsedVisVram, memUsedVram, vramVendor, pcieReplayCount, uniqueId,
    dfCountersAvailable, memBusyPercent, xgmiError, fwVersionAsd, fwVersionCe, fwVersionDmcu,
    fwVersionMc, fwVersionMe, fwVersionMec, fwVersionMec2, fwVersionPfp, fwVersionRlc,
    fwVersionRlcSrlc, fwVersionRlcSrlg, fwVersionRlcSrls, fwVersionSdma, fwVersionSdma2,
    fwVersionSmc, fwVersionSos, fwVersionTaRas, fwVersionTaXgmi, fwVersionUvd, fwVersionVce,
    fwVersionVcn, serialNumber, memPageBad, numaNode, gpuMetrics, computePartition,
    memoryPartition]

/-- The number of an attribute, which is its place in the catalogue. -/
def id (a : Attribute) : UInt32 := UInt32.ofNat (all.idxOf a)

/-- Attributes that may also be read as their first word. -/
def readableAsToken : Attribute → Bool
  | perfLevel | usage | overDriveLevel | devId | subSysDevId | subSysVendorId | vendorId
  | vramVendor | vBiosVer | pcieThroughput | serialNumber => true
  | _ => false

def takesNumber : Attribute → Bool
  | overDriveLevel | powerProfileMode | perfLevel => true
  | _ => false

def takesText : Attribute → Bool
  | gpuMClk | dcefClk | fClk | gpuSClk | pcieClk | powerOdVoltage | socClk => true
  | _ => false

/-- The firmware blocks in the order of their numbers. -/
def firmwareBlocks : List Attribute :=
  [fwVersionAsd, fwVersionCe, fwVersionDmcu, fwVersionMc, fwVersionMe, fwVersionMec,
    fwVersionMec2, fwVersionPfp, fwVersionRlc, fwVersionRlcSrlc, fwVersionRlcSrlg,
    fwVersionRlcSrls, fwVersionSdma, fwVersionSdma2, fwVersionSmc, fwVersionSos, fwVersionTaRas,
    fwVersionTaXgmi, fwVersionUvd, fwVersionVce, fwVersionVcn]

/-- The error counts of a block of the chip, where the driver keeps them; blocks are single bits
of a mask. -/
def ofErrorBlock? (block : UInt64) : Option Attribute :=
  if block = 0x1 then some errCntUmc
  else if block = 0x2 then some errCntSdma
  else if block = 0x4 then some errCntGfx
  else none

theorem mem_all (a : Attribute) : a ∈ all := by
  cases a <;> decide

end Attribute

end GpuManagement
