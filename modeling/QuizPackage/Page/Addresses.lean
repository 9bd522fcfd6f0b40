import QuizPackage.Markup.Tree

namespace QuizPackage

open Markup

structure NameSpace where
  name : String
  schema : String

def schemaLocations (spaces : List NameSpace) : Attribute :=
  ⟨.schemaLocation, " ".intercalate (spaces.flatMap fun space => [space.name, space.schema])⟩

def instanceSpace : String := "http://www.w3.org/2001/XMLSchema-instance"

def contentSpace : Format → NameSpace
  | .qti21 => {
      name := "http://www.imsglobal.org/xsd/imsqti_v2p1"
      schema := "http://www.imsglobal.org/xsd/qti/qtiv2p1/imsqti_v2p1.xsd" }
  | .qti30 => {
      name := "http://www.imsglobal.org/xsd/imsqtiasi_v3p0"
      schema := "https://purl.imsglobal.org/spec/qti/v3p0/schema/xsd/imsqti_asiv3p0_v1p0.xsd" }

def packageSpace : Format → NameSpace
  | .qti21 => {
      name := "http://www.imsglobal.org/xsd/imscp_v1p1"
      schema := "http://www.imsglobal.org/xsd/qti/qtiv2p1/qtiv2p1_imscpv1p2_v1p0.xsd" }
  | .qti30 => {
      name := "http://www.imsglobal.org/xsd/qti/qtiv3p0/imscp_v1p1"
      schema :=
        "https://purl.imsglobal.org/spec/qti/v3p0/schema/xsd/imsqtiv3p0_imscpv1p2_v1p0.xsd" }

def recordSpace : Format → NameSpace
  | .qti21 => {
      name := "http://ltsc.ieee.org/xsd/LOM"
      schema := "http://www.imsglobal.org/xsd/imsmd_loose_v1p3p2.xsd" }
  | .qti30 => {
      name := "http://ltsc.ieee.org/xsd/LOM"
      schema := "https://purl.imsglobal.org/spec/md/v1p3/schema/xsd/imsmd_loose_v1p3p2.xsd" }

def interactionSpace : Format → NameSpace
  | .qti21 => {
      name := "http://www.imsglobal.org/xsd/imsqti_metadata_v2p1"
      schema := "http://www.imsglobal.org/xsd/qti/qtiv2p1/imsqti_metadata_v2p1p1.xsd" }
  | .qti30 => {
      name := "http://www.imsglobal.org/xsd/imsqti_metadata_v3p0"
      schema := "https://purl.imsglobal.org/spec/qti/v3p0/schema/xsd/imsqti_metadatav3p0_v1p0.xsd" }

def contentAttributes (format : Format) : List Attribute :=
  let content := contentSpace format
  [⟨.standardSpace, content.name⟩, ⟨.instanceSpace, instanceSpace⟩, schemaLocations [content]]

def packageAttributes (format : Format) : List Attribute :=
  let package := packageSpace format
  let record := recordSpace format
  let interaction := interactionSpace format
  [
    ⟨.standardSpace, package.name⟩,
    ⟨.recordSpace, record.name⟩,
    ⟨.interactionSpace, interaction.name⟩,
    ⟨.instanceSpace, instanceSpace⟩,
    schemaLocations [package, record, interaction]]

end QuizPackage
