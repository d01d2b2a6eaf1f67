import Cryptoki.Text.Digits

/-! The codes of mechanisms, their symbolic names, and the families of mechanisms whose parameters
a module writes to. -/

namespace Cryptoki.MechanismCode

def names : List (Word × String) :=
  [(0x0, "CKM_RSA_PKCS_KEY_PAIR_GEN"), (0x1, "CKM_RSA_PKCS"), (0x3, "CKM_RSA_X_509"),
   (0x6, "CKM_SHA1_RSA_PKCS"), (0x9, "CKM_RSA_PKCS_OAEP"), (0xD, "CKM_RSA_PKCS_PSS"),
   (0xE, "CKM_SHA1_RSA_PKCS_PSS"), (0x20, "CKM_DH_PKCS_KEY_PAIR_GEN"), (0x21, "CKM_DH_PKCS_DERIVE"),
   (0x31, "CKM_X9_42_DH_DERIVE"), (0x32, "CKM_X9_42_DH_HYBRID_DERIVE"),
   (0x33, "CKM_X9_42_MQV_DERIVE"), (0x40, "CKM_SHA256_RSA_PKCS"), (0x43, "CKM_SHA256_RSA_PKCS_PSS"),
   (0x100, "CKM_RC2_KEY_GEN"), (0x101, "CKM_RC2_ECB"), (0x102, "CKM_RC2_CBC"),
   (0x103, "CKM_RC2_MAC"), (0x104, "CKM_RC2_MAC_GENERAL"), (0x105, "CKM_RC2_CBC_PAD"),
   (0x111, "CKM_RC4"), (0x120, "CKM_DES_KEY_GEN"), (0x121, "CKM_DES_ECB"), (0x122, "CKM_DES_CBC"),
   (0x123, "CKM_DES_MAC"), (0x124, "CKM_DES_MAC_GENERAL"), (0x131, "CKM_DES3_KEY_GEN"),
   (0x132, "CKM_DES3_ECB"), (0x133, "CKM_DES3_CBC"), (0x136, "CKM_DES3_CBC_PAD"),
   (0x210, "CKM_MD5"), (0x220, "CKM_SHA_1"), (0x221, "CKM_SHA_1_HMAC"),
   (0x222, "CKM_SHA_1_HMAC_GENERAL"), (0x250, "CKM_SHA256"), (0x251, "CKM_SHA256_HMAC"),
   (0x260, "CKM_SHA384"), (0x270, "CKM_SHA512"), (0x330, "CKM_RC5_KEY_GEN"), (0x331, "CKM_RC5_ECB"),
   (0x332, "CKM_RC5_CBC"), (0x333, "CKM_RC5_MAC"), (0x334, "CKM_RC5_MAC_GENERAL"),
   (0x335, "CKM_RC5_CBC_PAD"), (0x350, "CKM_GENERIC_SECRET_KEY_GEN"),
   (0x360, "CKM_CONCATENATE_BASE_AND_KEY"), (0x362, "CKM_CONCATENATE_BASE_AND_DATA"),
   (0x363, "CKM_CONCATENATE_DATA_AND_BASE"), (0x364, "CKM_XOR_BASE_AND_DATA"),
   (0x365, "CKM_EXTRACT_KEY_FROM_KEY"), (0x370, "CKM_SSL3_PRE_MASTER_KEY_GEN"),
   (0x371, "CKM_SSL3_MASTER_KEY_DERIVE"), (0x372, "CKM_SSL3_KEY_AND_MAC_DERIVE"),
   (0x373, "CKM_SSL3_MASTER_KEY_DERIVE_DH"), (0x374, "CKM_TLS_PRE_MASTER_KEY_GEN"),
   (0x375, "CKM_TLS_MASTER_KEY_DERIVE"), (0x376, "CKM_TLS_KEY_AND_MAC_DERIVE"),
   (0x377, "CKM_TLS_MASTER_KEY_DERIVE_DH"), (0x380, "CKM_SSL3_MD5_MAC"),
   (0x381, "CKM_SSL3_SHA1_MAC"), (0x3A0, "CKM_PBE_MD2_DES_CBC"), (0x3A1, "CKM_PBE_MD5_DES_CBC"),
   (0x3A2, "CKM_PBE_MD5_CAST_CBC"), (0x3A3, "CKM_PBE_MD5_CAST3_CBC"),
   (0x3A4, "CKM_PBE_MD5_CAST128_CBC"), (0x3A5, "CKM_PBE_SHA1_CAST128_CBC"),
   (0x3A6, "CKM_PBE_SHA1_RC4_128"), (0x3A7, "CKM_PBE_SHA1_RC4_40"),
   (0x3A8, "CKM_PBE_SHA1_DES3_EDE_CBC"), (0x3A9, "CKM_PBE_SHA1_DES2_EDE_CBC"),
   (0x3AA, "CKM_PBE_SHA1_RC2_128_CBC"), (0x3AB, "CKM_PBE_SHA1_RC2_40_CBC"),
   (0x3B0, "CKM_PKCS5_PBKD2"), (0x3C0, "CKM_PBA_SHA1_WITH_SHA1_HMAC"),
   (0x400, "CKM_KEY_WRAP_LYNKS"), (0x401, "CKM_KEY_WRAP_SET_OAEP"),
   (0x1000, "CKM_SKIPJACK_KEY_GEN"), (0x1004, "CKM_SKIPJACK_CBC64"), (0x1008, "CKM_SKIPJACK_WRAP"),
   (0x1009, "CKM_SKIPJACK_PRIVATE_WRAP"), (0x100A, "CKM_SKIPJACK_RELAYX"),
   (0x1010, "CKM_KEA_KEY_PAIR_GEN"), (0x1011, "CKM_KEA_KEY_DERIVE"),
   (0x1040, "CKM_EC_KEY_PAIR_GEN"), (0x1041, "CKM_ECDSA"), (0x1042, "CKM_ECDSA_SHA1"),
   (0x1050, "CKM_ECDH1_DERIVE"), (0x1051, "CKM_ECDH1_COFACTOR_DERIVE"),
   (0x1052, "CKM_ECMQV_DERIVE"), (0x1080, "CKM_AES_KEY_GEN"), (0x1081, "CKM_AES_ECB"),
   (0x1082, "CKM_AES_CBC"), (0x1083, "CKM_AES_MAC"), (0x1084, "CKM_AES_MAC_GENERAL"),
   (0x1085, "CKM_AES_CBC_PAD"), (0x1087, "CKM_AES_GCM"), (0x1100, "CKM_DES_ECB_ENCRYPT_DATA"),
   (0x1101, "CKM_DES_CBC_ENCRYPT_DATA"), (0x1102, "CKM_DES3_ECB_ENCRYPT_DATA"),
   (0x1103, "CKM_DES3_CBC_ENCRYPT_DATA"), (0x1104, "CKM_AES_ECB_ENCRYPT_DATA"),
   (0x1105, "CKM_AES_CBC_ENCRYPT_DATA"), (0x80000000, "CKM_VENDOR_DEFINED")]

def name? (code : Word) : Option String := names.lookup code

def label (code : Word) : String := (name? code).getD (Digits.hexadecimal 8 code)

/-- Key wrapping for electronic transactions, which returns the contents of the wrapped block. -/
def keyWrapSetOaep : Word := 0x401

/-- Password-based key generation that returns an initialization vector. -/
def generatesInitVector (code : Word) : Bool :=
  code == 0x3A0 || code == 0x3A1 || code == 0x3A2 || code == 0x3A3 || code == 0x3A4 || code == 0x3A5

/-- Derivation of a master key, which returns the version of the client. -/
def derivesMasterKey (code : Word) : Bool := code == 0x371 || code == 0x375

/-- Derivation of keys and MAC secrets, which returns its keys through the parameter. -/
def derivesKeyMaterial (code : Word) : Bool := code == 0x372 || code == 0x376

end Cryptoki.MechanismCode
