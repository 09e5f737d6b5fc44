import SynthTable.Assets.Source

/-!
# Bundled dictionaries

The dictionaries that are used where no others are given.
-/

namespace SynthTable.Bundled

/-- Cities: name, latitude, longitude, country and population. -/
def cities : List String := [
  "Paris;48.8567;2.3522;France;11060000",
  "Marseille;43.2964;5.3700;France;873076",
  "Lyon;45.7600;4.8400;France;516092",
  "Toulouse;43.6045;1.4440;France;493465",
  "Nice;43.7034;7.2663;France;342669",
  "Nantes;47.2181;-1.5528;France;320732",
  "Strasbourg;48.5833;7.7458;France;290576",
  "Bordeaux;44.8378;-0.5792;France;260958",
  "Lille;50.6292;3.0573;France;236710",
  "Rennes;48.1147;-1.6794;France;222485",
  "Berlin;52.5200;13.4050;Germany;3664088",
  "Hamburg;53.5500;10.0000;Germany;1852478",
  "Munich;48.1375;11.5750;Germany;1488202",
  "Cologne;50.9364;6.9528;Germany;1083498",
  "Frankfurt;50.1106;8.6822;Germany;763380",
  "Stuttgart;48.7775;9.1800;Germany;635911",
  "Leipzig;51.3400;12.3750;Germany;597493",
  "Dresden;51.0500;13.7400;Germany;556227",
  "Madrid;40.4169;-3.7033;Spain;3266126",
  "Barcelona;41.3825;2.1769;Spain;1636762",
  "Valencia;39.4700;-0.3764;Spain;800215",
  "Seville;37.3900;-5.9900;Spain;684234",
  "Rome;41.8931;12.4828;Italy;2872800",
  "Milan;45.4669;9.1900;Italy;1366180",
  "Naples;40.8333;14.2500;Italy;959188",
  "Turin;45.0792;7.6761;Italy;870952",
  "London;51.5072;-0.1275;United Kingdom;8961989",
  "Birmingham;52.4800;-1.9025;United Kingdom;1144900",
  "Manchester;53.4794;-2.2453;United Kingdom;552858",
  "Edinburgh;55.9533;-3.1892;United Kingdom;506520",
  "New York;40.6943;-73.9249;United States;18972871",
  "Los Angeles;34.1141;-118.4068;United States;12121244",
  "Chicago;41.8375;-87.6866;United States;8595181",
  "Houston;29.7860;-95.3885;United States;5893634",
  "Seattle;47.6211;-122.3244;United States;3438221",
  "Tokyo;35.6897;139.6922;Japan;37732000",
  "Osaka;34.6936;135.5019;Japan;19059856",
  "Sapporo;43.0619;141.3544;Japan;1973395",
  "Sao Paulo;-23.5504;-46.6339;Brazil;23086000",
  "Rio de Janeiro;-22.9111;-43.2056;Brazil;12592000",
  "Mumbai;19.0761;72.8775;India;24973000",
  "Bangalore;12.9789;77.5917;India;15386000"]

/-- First names: name, country, and whether it is male, female, for both. -/
def names : List String := [
  "Camille;France;false;false;true",
  "Louis;France;true;false;false",
  "Gabriel;France;true;false;false",
  "Jules;France;true;false;false",
  "Emma;France;false;true;false",
  "Louise;France;false;true;false",
  "Alice;France;false;true;false",
  "Dominique;France;false;false;true",
  "Lukas;Germany;true;false;false",
  "Leon;Germany;true;false;false",
  "Finn;Germany;true;false;false",
  "Mia;Germany;false;true;false",
  "Hannah;Germany;false;true;false",
  "Kim;Germany;false;false;true",
  "Lucia;Spain;false;true;false",
  "Hugo;Spain;true;false;false",
  "Martina;Spain;false;true;false",
  "Mateo;Spain;true;false;false",
  "Giulia;Italy;false;true;false",
  "Leonardo;Italy;true;false;false",
  "Andrea;Italy;false;false;true",
  "Oliver;United Kingdom;true;false;false",
  "Amelia;United Kingdom;false;true;false",
  "Charlie;United Kingdom;false;false;true",
  "Liam;United States;true;false;false",
  "Olivia;United States;false;true;false",
  "Noah;United States;true;false;false",
  "Taylor;United States;false;false;true",
  "Haruto;Japan;true;false;false",
  "Yui;Japan;false;true;false",
  "Hikaru;Japan;false;false;true",
  "Miguel;Brazil;true;false;false",
  "Helena;Brazil;false;true;false",
  "Aarav;India;true;false;false",
  "Ananya;India;false;true;false"]

/-- Dialing codes: digits and country. -/
def dialCodes : List String := [
  "33;France",
  "49;Germany",
  "34;Spain",
  "39;Italy",
  "44;United Kingdom",
  "1;United States",
  "81;Japan",
  "55;Brazil",
  "91;India"]

/-- The bytes of lines. -/
def bytesOfLines (lines : List String) : List UInt8 :=
  lines.flatMap fun line => Text.stringBytes line ++ [10]

/-- The bundled file of a name. -/
def file (name : String) : FileContent :=
  match name with
  | "dictionaries/cities.csv" => .bytes (bytesOfLines cities)
  | "dictionaries/names.csv" => .bytes (bytesOfLines names)
  | "dictionaries/phone_prefixes.csv" => .bytes (bytesOfLines dialCodes)
  | _ => .missing

/-- The bundled dictionaries, and the files of users as `read` finds them. -/
def source (read : String → FileContent) : AssetSource := ⟨"assets", file, read⟩

end SynthTable.Bundled
