import Payables.EInvoice.Document

namespace Payables.EInvoice

open Lib

/-- `ISO_4217_CURRENCIES`. -/
def iso4217Currencies : List String :=
  ["AED", "AFN", "ALL", "AMD", "ANG", "AOA", "ARS", "AUD", "AWG", "AZN", "BAM", "BBD", "BDT", "BGN", "BHD", "BIF",
    "BMD", "BND", "BOB", "BOV", "BRL", "BSD", "BTN", "BWP", "BYN", "BZD", "CAD", "CDF", "CHE", "CHF", "CHW", "CLF",
    "CLP", "CNY", "COP", "COU", "CRC", "CUP", "CVE", "CZK", "DJF", "DKK", "DOP", "DZD", "EGP", "ERN", "ETB", "EUR",
    "FJD", "FKP", "GBP", "GEL", "GHS", "GIP", "GMD", "GNF", "GTQ", "GYD", "HKD", "HNL", "HTG", "HUF", "IDR", "ILS",
    "INR", "IQD", "IRR", "ISK", "JMD", "JOD", "JPY", "KES", "KGS", "KHR", "KMF", "KPW", "KRW", "KWD", "KYD", "KZT",
    "LAK", "LBP", "LKR", "LRD", "LSL", "LYD", "MAD", "MDL", "MGA", "MKD", "MMK", "MNT", "MOP", "MRU", "MUR", "MVR",
    "MWK", "MXN", "MXV", "MYR", "MZN", "NAD", "NGN", "NIO", "NOK", "NPR", "NZD", "OMR", "PAB", "PEN", "PGK", "PHP",
    "PKR", "PLN", "PYG", "QAR", "RON", "RSD", "RUB", "RWF", "SAR", "SBD", "SCR", "SDG", "SEK", "SGD", "SHP", "SLE",
    "SOS", "SRD", "SSP", "STN", "SVC", "SYP", "SZL", "THB", "TJS", "TMT", "TND", "TOP", "TRY", "TTD", "TWD", "TZS",
    "UAH", "UGX", "USD", "USN", "UYI", "UYU", "UYW", "UZS", "VED", "VES", "VND", "VUV", "WST", "XAF", "XAG", "XAU",
    "XBA", "XBB", "XBC", "XBD", "XCD", "XCG", "XDR", "XOF", "XPD", "XPF", "XPT", "XSU", "XTS", "XUA", "XXX", "YER",
    "ZAR", "ZMW", "ZWG", "BYR", "CUC", "HRK", "LTL", "LVL", "MRO", "SLL", "STD", "VEF", "ZWL"]

/-- `ISO_3166_ALPHA2`. -/
def iso3166Alpha2 : List String :=
  ["AD", "AE", "AF", "AG", "AI", "AL", "AM", "AO", "AQ", "AR", "AS", "AT", "AU", "AW", "AX", "AZ", "BA", "BB", "BD",
    "BE", "BF", "BG", "BH", "BI", "BJ", "BL", "BM", "BN", "BO", "BQ", "BR", "BS", "BT", "BV", "BW", "BY", "BZ", "CA",
    "CC", "CD", "CF", "CG", "CH", "CI", "CK", "CL", "CM", "CN", "CO", "CR", "CU", "CV", "CW", "CX", "CY", "CZ", "DE",
    "DJ", "DK", "DM", "DO", "DZ", "EC", "EE", "EG", "EH", "ER", "ES", "ET", "FI", "FJ", "FK", "FM", "FO", "FR", "GA",
    "GB", "GD", "GE", "GF", "GG", "GH", "GI", "GL", "GM", "GN", "GP", "GQ", "GR", "GS", "GT", "GU", "GW", "GY", "HK",
    "HM", "HN", "HR", "HT", "HU", "ID", "IE", "IL", "IM", "IN", "IO", "IQ", "IR", "IS", "IT", "JE", "JM", "JO", "JP",
    "KE", "KG", "KH", "KI", "KM", "KN", "KP", "KR", "KW", "KY", "KZ", "LA", "LB", "LC", "LI", "LK", "LR", "LS", "LT",
    "LU", "LV", "LY", "MA", "MC", "MD", "ME", "MF", "MG", "MH", "MK", "ML", "MM", "MN", "MO", "MP", "MQ", "MR", "MS",
    "MT", "MU", "MV", "MW", "MX", "MY", "MZ", "NA", "NC", "NE", "NF", "NG", "NI", "NL", "NO", "NP", "NR", "NU", "NZ",
    "OM", "PA", "PE", "PF", "PG", "PH", "PK", "PL", "PM", "PN", "PR", "PS", "PT", "PW", "PY", "QA", "RE", "RO", "RS",
    "RU", "RW", "SA", "SB", "SC", "SD", "SE", "SG", "SH", "SI", "SJ", "SK", "SL", "SM", "SN", "SO", "SR", "SS", "ST",
    "SV", "SX", "SY", "SZ", "TC", "TD", "TF", "TG", "TH", "TJ", "TK", "TL", "TM", "TN", "TO", "TR", "TT", "TV", "TW",
    "TZ", "UA", "UG", "UM", "US", "UY", "UZ", "VA", "VC", "VE", "VG", "VI", "VN", "VU", "WF", "WS", "YE", "YT", "ZA",
    "ZM", "ZW", "1A"]

/-- `UNCL5305_VAT_CATEGORIES`. -/
def uncl5305VatCategories : List String := ["AE", "E", "G", "K", "L", "M", "O", "S", "Z"]

/-- `ZERO_RATE_VAT_CATEGORIES`. -/
def zeroRateVatCategories : List String := ["AE", "E", "G", "K", "O", "Z"]

/-- `VAT_CATEGORY_RULE_INFIX`. -/
def vatCategoryRuleInfix : List (String × String) :=
  [("S", "S"), ("Z", "Z"), ("E", "E"), ("AE", "AE"), ("K", "IC"), ("G", "G"), ("O", "O"), ("L", "IG"), ("M", "IP")]

/-- `UNTDID_1001_DOCUMENT_TYPES`. -/
def untdid1001DocumentTypes : List String :=
  ["71", "80", "81", "82", "83", "84", "102", "130", "202", "203", "204", "211", "218", "219", "261", "262", "295",
    "296", "308", "320", "325", "326", "331", "380", "381", "382", "383", "384", "385", "386", "387", "388", "389",
    "390", "393", "394", "395", "396", "420", "456", "457", "458", "527", "553", "575", "623", "633", "751", "780",
    "817", "870", "875", "876", "877", "935"]

/-- `_norm`. -/
def norm (value : Option String) : Option String := value.bind fun v => nonEmpty (pyUpper (pyStripText v))

/-- Membership of a normalized code, where there is one. -/
def isAbsentOrIn (list : List String) (code : Option String) : Bool :=
  match norm code with
  | none => true
  | some normalized => list.contains normalized

/-- `is_valid_currency`. -/
def isValidCurrency : Option String → Bool := isAbsentOrIn iso4217Currencies

/-- `is_valid_country`. -/
def isValidCountry : Option String → Bool := isAbsentOrIn iso3166Alpha2

/-- `is_valid_vat_category`. -/
def isValidVatCategory : Option String → Bool := isAbsentOrIn uncl5305VatCategories

/-- `is_valid_document_type`. -/
def isValidDocumentType : Option String → Bool := isAbsentOrIn untdid1001DocumentTypes

/-- `_UNIT_CODE_SHAPE`. -/
def isUnitCodeShape (code : String) : Bool :=
  0 < code.toList.length && code.toList.length ≤ 3 && code.toList.all fun c => c.isUpper || c.isDigit

/-- `_PAYMENT_MEANS_SHAPE`. -/
def isPaymentMeansShape (code : String) : Bool :=
  code == "ZZZ" || (0 < code.toList.length && code.toList.length ≤ 3 && code.toList.all Char.isDigit)

/-- `is_plausible_unit_code`. -/
def isPlausibleUnitCode (code : Option String) : Bool :=
  match norm code with
  | none => true
  | some normalized => isUnitCodeShape normalized

/-- `is_plausible_payment_means`. -/
def isPlausiblePaymentMeans (code : Option String) : Bool :=
  match norm code with
  | none => true
  | some normalized => isPaymentMeansShape normalized

/-- `vat_category_rule`. -/
def vatCategoryRule (code : Option String) (suffix : String) : String :=
  match tableGet vatCategoryRuleInfix ((norm code).getD "") with
  | some family => "BR-" ++ family ++ "-" ++ suffix
  | none => "BR-CL-18"

section Stripping

/-- Without its outer space a code is judged as before. -/
theorem norm_stripped (value : Option String) : norm (stripped value) = norm value := by
  cases value with
  | none => rfl
  | some v =>
    unfold norm stripped
    rw [Option.bind_some, Option.bind_some, nonEmpty]
    split
    · next empty =>
      rw [empty]
      decide
    · rw [Option.bind_some, pyStripText_pyStripText]

end Stripping

end Payables.EInvoice
