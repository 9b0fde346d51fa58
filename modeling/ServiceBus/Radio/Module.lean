import ServiceBus.Radio.Band

/-! Description of one broadcast radio module. -/
namespace ServiceBus

structure ModuleProperties where
  id : Int32
  serviceName : String
  implementor : String
  product : String
  version : String
  serial : String
  tuners : Int32
  audioSources : Int32
  captureSupported : Bool
  backgroundScanSupported : Bool
  bands : List BandConfig
deriving DecidableEq

namespace ModuleProperties

abbrev Fields :=
  Int32 × String × String × String × String × String × Int32 × Int32 × Bool × Bool ×
    List BandConfig

def toFields (m : ModuleProperties) : Fields :=
  (m.id, m.serviceName, m.implementor, m.product, m.version, m.serial, m.tuners, m.audioSources,
    m.captureSupported, m.backgroundScanSupported, m.bands)

def ofFields : Fields → ModuleProperties
  | (id, service, implementor, product, version, serial, tuners, sources, capture, scan, bands) =>
    ⟨id, service, implementor, product, version, serial, tuners, sources, capture, scan, bands⟩

@[simp] theorem ofFields_toFields (m : ModuleProperties) : ofFields m.toFields = m := rfl
@[simp] theorem toFields_ofFields (x : Fields) : (ofFields x).toFields = x := rfl

end ModuleProperties

end ServiceBus
