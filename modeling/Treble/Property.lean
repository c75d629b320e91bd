/-!
# System properties

A property has a name and a value. Detection asks a store for the values of seven properties.

## Main definitions

* `PropertyStore` — the value of each property that is set
* `parseFlag` — a value read as true or false
* `PropertyStore.isTrue` — whether a property is set to a true value
-/

namespace Treble

/-- The value of each property that is set. -/
abbrev PropertyStore := String → Option String

namespace Property

/-- The VNDK version the vendor was built against. -/
def vndkVersion : String := "ro.vndk.version"

/-- Whether the device runs the reduced VNDK. -/
def vndkLite : String := "ro.vndk.lite"

/-- Whether the device claims Treble support. -/
def trebleEnabled : String := "ro.treble.enabled"

/-- The variant of the product that selects the vendor manifest. -/
def vendorSku : String := "ro.boot.product.vendor.sku"

/-- The variant of the product that selects the ODM manifest. -/
def hardwareSku : String := "ro.boot.product.hardware.sku"

/-- Whether the device uses dynamic partitions. -/
def dynamicPartitions : String := "ro.boot.dynamic_partitions"

/-- Whether the system image holds the root file system. -/
def systemRootImage : String := "ro.build.system_root_image"

/-- The values that mean true. -/
def trueWords : List String := ["1", "y", "yes", "on", "true"]

/-- The values that mean false. -/
def falseWords : List String := ["0", "n", "no", "off", "false"]

/-- A value read as true or false. Every value but the ten words is neither. -/
def parseFlag (value : String) : Option Bool :=
  if value ∈ trueWords then some true
  else if value ∈ falseWords then some false
  else none

end Property

namespace PropertyStore

/-- The store in which no property is set. -/
def empty : PropertyStore := fun _ => none

/-- The property read as true or false. A property that is not set is neither. -/
def flag? (store : PropertyStore) (name : String) : Option Bool :=
  (store name).bind Property.parseFlag

/-- Whether the property is set to a true value. -/
def isTrue (store : PropertyStore) (name : String) : Bool := store.flag? name == some true

theorem isTrue_iff {store : PropertyStore} {name : String} :
    store.isTrue name = true ↔ ∃ value, store name = some value ∧
      Property.parseFlag value = some true := by
  simp [isTrue, flag?, Option.bind_eq_some_iff]

end PropertyStore

end Treble
