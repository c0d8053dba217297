import LabelPress.Variable.Definition

/-
  Sets of variables for common label layouts.

  Key definitions include:
    * `Preset`
    * `Preset.ofName`
    * `Preset.definitions`
-/

namespace LabelPress

/- A set of variables for a kind of label. -/
inductive Preset where
  | asset
  | inventory
  | product
  | shipping
  deriving DecidableEq

namespace Preset

/- The name of a set. -/
def name :
    Preset → Text
  | asset => "asset"
  | inventory => "inventory"
  | product => "product"
  | shipping => "shipping"

/- All sets, by the order of their names. -/
def all :
    List Preset :=
  [asset, inventory, product, shipping]

/- The names in order. -/
def names :
    List Text :=
  all.map name

/- The set of a name. -/
def ofName
    (s : Text) :
    Except Fault Preset :=
  match all.find? fun p => p.name == s with
  | some p => .ok p
  | none => .error (.unknownPreset s names)

/- The set that a value names; a name must be fit for a look-up. -/
def ofValue
    [Machine] :
    Value → Except Fault Preset
  | .text s => ofName s
  | v => do
      v.checkLookedUp .presetName
      v.checkShown .presetComplaint
      throw (.unknownPreset v.toText names)

/- A variable of a set. -/
def variableOf
    (name : Text)
    (type : VariableType)
    (defaultValue : Value)
    (description : Text)
    (accepted : isVariableName name = true := by decide) :
    VariableDefinition :=
  ⟨name, type, defaultValue, .text description, .record {}, accepted⟩

/- The variables of a set. -/
def definitions :
    Preset → List VariableDefinition
  | shipping =>
      [variableOf "recipientName" .text (.text "John Doe")
          "Recipient full name",
        variableOf "recipientAddress" .text (.text "123 Main St")
          "Recipient address",
        variableOf "recipientCity" .text (.text "New York")
          "Recipient city",
        variableOf "recipientZip" .text (.text "10001")
          "Recipient ZIP code",
        variableOf "trackingNumber" .barcode (.text "TRK123456789")
          "Package tracking number",
        variableOf "shipDate" .date .null "Ship date",
        variableOf "weight" .number (.double (Double.ofRatio false 11 2))
          "Package weight in lbs"]
  | product =>
      [variableOf "productName" .text (.text "Sample Product")
          "Product name",
        variableOf "productSKU" .text (.text "SKU-12345") "Product SKU",
        variableOf "productPrice" .number
          (.double (Double.ofRatio false 2999 100)) "Product price",
        variableOf "productBarcode" .barcode (.text "1234567890123")
          "Product barcode",
        variableOf "productDescription" .text
          (.text "Product description") "Product description",
        variableOf "manufacturingDate" .date .null "Manufacturing date",
        variableOf "expiryDate" .date .null "Expiry date"]
  | inventory =>
      [variableOf "itemCode" .text (.text "ITM-001") "Item code",
        variableOf "itemName" .text (.text "Inventory Item") "Item name",
        variableOf "location" .text (.text "A1-B2-C3")
          "Storage location",
        variableOf "quantity" .number (.int 100) "Item quantity",
        variableOf "binLocation" .text (.text "BIN-A001")
          "Bin location",
        variableOf "lastUpdated" .date .null "Last inventory update",
        variableOf "reorderPoint" .number (.int 25)
          "Reorder point quantity"]
  | asset =>
      [variableOf "assetTag" .text (.text "ASSET-001")
          "Asset tag number",
        variableOf "assetName" .text (.text "Equipment Name")
          "Asset name",
        variableOf "serialNumber" .text (.text "SN123456")
          "Serial number",
        variableOf "purchaseDate" .date .null "Purchase date",
        variableOf "warrantyExpiry" .date .null "Warranty expiry",
        variableOf "department" .text (.text "IT") "Department",
        variableOf "responsible" .text (.text "John Smith")
          "Responsible person"]

end Preset

end LabelPress
