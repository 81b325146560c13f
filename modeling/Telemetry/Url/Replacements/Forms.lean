/-!
Forms of characters that are replaced by the characters in domain names.

Each entry holds the first of some neighbouring code points, and what stands for each of them.
-/

namespace Telemetry.Url

/-- The replaced characters from F900 to FAD9 that stand in no run. -/
def replacedCompatibilityForms : List (Nat × List (List Nat)) :=
  [(0xF900, [[0x8C48], [0x66F4], [0x8ECA], [0x8CC8], [0x6ED1], [0x4E32], [0x53E5], [0x9F9C],
    [0x9F9C], [0x5951], [0x91D1], [0x5587], [0x5948], [0x61F6], [0x7669], [0x7F85], [0x863F],
    [0x87BA], [0x88F8], [0x908F], [0x6A02], [0x6D1B], [0x70D9], [0x73DE], [0x843D], [0x916A],
    [0x99F1], [0x4E82], [0x5375], [0x6B04], [0x721B], [0x862D], [0x9E1E], [0x5D50], [0x6FEB],
    [0x85CD], [0x8964], [0x62C9], [0x81D8], [0x881F], [0x5ECA], [0x6717], [0x6D6A], [0x72FC],
    [0x90CE], [0x4F86], [0x51B7], [0x52DE], [0x64C4], [0x6AD3], [0x7210], [0x76E7], [0x8001],
    [0x8606], [0x865C], [0x8DEF], [0x9732], [0x9B6F], [0x9DFA], [0x788C], [0x797F], [0x7DA0],
    [0x83C9], [0x9304], [0x9E7F], [0x8AD6], [0x58DF], [0x5F04], [0x7C60], [0x807E], [0x7262],
    [0x78CA], [0x8CC2], [0x96F7], [0x58D8], [0x5C62], [0x6A13], [0x6DDA], [0x6F0F], [0x7D2F],
    [0x7E37], [0x964B], [0x52D2], [0x808B], [0x51DC], [0x51CC], [0x7A1C], [0x7DBE], [0x83F1],
    [0x9675], [0x8B80], [0x62CF], [0x6A02], [0x8AFE], [0x4E39], [0x5BE7], [0x6012], [0x7387],
    [0x7570], [0x5317], [0x78FB], [0x4FBF], [0x5FA9], [0x4E0D], [0x6CCC], [0x6578], [0x7D22],
    [0x53C3], [0x585E], [0x7701], [0x8449], [0x8AAA], [0x6BBA], [0x8FB0], [0x6C88], [0x62FE],
    [0x82E5], [0x63A0], [0x7565], [0x4EAE], [0x5169], [0x51C9], [0x6881], [0x7CE7], [0x826F],
    [0x8AD2], [0x91CF], [0x52F5], [0x5442], [0x5973], [0x5EEC], [0x65C5], [0x6FFE], [0x792A],
    [0x95AD], [0x9A6A], [0x9E97], [0x9ECE], [0x529B], [0x66C6], [0x6B77], [0x8F62], [0x5E74],
    [0x6190], [0x6200], [0x649A], [0x6F23], [0x7149], [0x7489], [0x79CA], [0x7DF4], [0x806F],
    [0x8F26], [0x84EE], [0x9023], [0x934A], [0x5217], [0x52A3], [0x54BD], [0x70C8], [0x88C2],
    [0x8AAA], [0x5EC9], [0x5FF5], [0x637B], [0x6BAE], [0x7C3E], [0x7375], [0x4EE4], [0x56F9],
    [0x5BE7], [0x5DBA], [0x601C], [0x73B2], [0x7469], [0x7F9A], [0x8046], [0x9234], [0x96F6],
    [0x9748], [0x9818], [0x4F8B], [0x79AE], [0x91B4], [0x96B8], [0x60E1], [0x4E86], [0x50DA],
    [0x5BEE], [0x5C3F], [0x6599], [0x6A02], [0x71CE], [0x7642], [0x84FC], [0x907C], [0x9F8D],
    [0x6688], [0x962E], [0x5289], [0x677B], [0x67F3], [0x6D41], [0x6E9C], [0x7409], [0x7559],
    [0x786B], [0x7D10], [0x985E], [0x516D], [0x622E], [0x9678], [0x502B], [0x5D19], [0x6DEA],
    [0x8F2A], [0x5F8B], [0x6144], [0x6817], [0x7387], [0x9686], [0x5229], [0x540F], [0x5C65],
    [0x6613], [0x674E], [0x68A8], [0x6CE5], [0x7406], [0x75E2], [0x7F79], [0x88CF], [0x88E1],
    [0x91CC], [0x96E2], [0x533F], [0x6EBA], [0x541D], [0x71D0], [0x7498], [0x85FA], [0x96A3],
    [0x9C57], [0x9E9F], [0x6797], [0x6DCB], [0x81E8], [0x7ACB], [0x7B20], [0x7C92], [0x72C0],
    [0x7099], [0x8B58], [0x4EC0], [0x8336], [0x523A], [0x5207], [0x5EA6], [0x62D3], [0x7CD6],
    [0x5B85], [0x6D1E], [0x66B4], [0x8F3B], [0x884C], [0x964D], [0x898B], [0x5ED3], [0x5140],
    [0x55C0]]), (0xFA10, [[0x585A]]), (0xFA12, [[0x6674]]), (0xFA15, [[0x51DE], [0x732A], [0x76CA],
    [0x793C], [0x795E], [0x7965], [0x798F], [0x9756], [0x7CBE], [0x7FBD]]), (0xFA20, [[0x8612]]),
    (0xFA22, [[0x8AF8]]), (0xFA25, [[0x9038], [0x90FD]]), (0xFA2A, [[0x98EF], [0x98FC], [0x9928],
    [0x9DB4], [0x90DE], [0x96B7], [0x4FAE], [0x50E7], [0x514D], [0x52C9], [0x52E4], [0x5351],
    [0x559D], [0x5606], [0x5668], [0x5840], [0x58A8], [0x5C64], [0x5C6E], [0x6094], [0x6168],
    [0x618E], [0x61F2], [0x654F], [0x65E2], [0x6691], [0x6885], [0x6D77], [0x6E1A], [0x6F22],
    [0x716E], [0x722B], [0x7422], [0x7891], [0x793E], [0x7949], [0x7948], [0x7950], [0x7956],
    [0x795D], [0x798D], [0x798E], [0x7A40], [0x7A81], [0x7BC0], [0x7DF4], [0x7E09], [0x7E41],
    [0x7F72], [0x8005], [0x81ED], [0x8279], [0x8279], [0x8457], [0x8910], [0x8996], [0x8B01],
    [0x8B39], [0x8CD3], [0x8D08], [0x8FB6], [0x9038], [0x96E3], [0x97FF], [0x983B], [0x6075],
    [0x242EE], [0x8218]]), (0xFA70, [[0x4E26], [0x51B5], [0x5168], [0x4F80], [0x5145], [0x5180],
    [0x52C7], [0x52FA], [0x559D], [0x5555], [0x5599], [0x55E2], [0x585A], [0x58B3], [0x5944],
    [0x5954], [0x5A62], [0x5B28], [0x5ED2], [0x5ED9], [0x5F69], [0x5FAD], [0x60D8], [0x614E],
    [0x6108], [0x618E], [0x6160], [0x61F2], [0x6234], [0x63C4], [0x641C], [0x6452], [0x6556],
    [0x6674], [0x6717], [0x671B], [0x6756], [0x6B79], [0x6BBA], [0x6D41], [0x6EDB], [0x6ECB],
    [0x6F22], [0x701E], [0x716E], [0x77A7], [0x7235], [0x72AF], [0x732A], [0x7471], [0x7506],
    [0x753B], [0x761D], [0x761F], [0x76CA], [0x76DB], [0x76F4], [0x774A], [0x7740], [0x78CC],
    [0x7AB1], [0x7BC0], [0x7C7B], [0x7D5B], [0x7DF4], [0x7F3E], [0x8005], [0x8352], [0x83EF],
    [0x8779], [0x8941], [0x8986], [0x8996], [0x8ABF], [0x8AF8], [0x8ACB], [0x8B01], [0x8AFE],
    [0x8AED], [0x8B39], [0x8B8A], [0x8D08], [0x8F38], [0x9072], [0x9199], [0x9276], [0x967C],
    [0x96E3], [0x9756], [0x97DB], [0x97FF], [0x980B], [0x983B], [0x9B12], [0x9F9C], [0x2284A],
    [0x22844], [0x233D5], [0x3B9D], [0x4018], [0x4039], [0x25249], [0x25CD0], [0x27ED3], [0x9F43],
    [0x9F8E]])]

def replacedPresentationForms : List (Nat × List (List Nat)) :=
  [(0xFB00, [[0x66, 0x66], [0x66, 0x69], [0x66, 0x6C], [0x66, 0x66, 0x69], [0x66, 0x66, 0x6C],
    [0x73, 0x74], [0x73, 0x74]]), (0xFB13, [[0x574, 0x576], [0x574, 0x565], [0x574, 0x56B], [0x57E,
    0x576], [0x574, 0x56D]]), (0xFB1D, [[0x5D9, 0x5B4]]), (0xFB1F, [[0x5F2, 0x5B7], [0x5E2],
    [0x5D0], [0x5D3], [0x5D4]]), (0xFB27, [[0x5E8], [0x5EA], [0x2B], [0x5E9, 0x5C1], [0x5E9, 0x5C2],
    [0x5E9, 0x5BC, 0x5C1], [0x5E9, 0x5BC, 0x5C2], [0x5D0, 0x5B7], [0x5D0, 0x5B8], [0x5D0, 0x5BC],
    [0x5D1, 0x5BC], [0x5D2, 0x5BC], [0x5D3, 0x5BC], [0x5D4, 0x5BC], [0x5D5, 0x5BC], [0x5D6,
    0x5BC]]), (0xFB38, [[0x5D8, 0x5BC], [0x5D9, 0x5BC], [0x5DA, 0x5BC], [0x5DB, 0x5BC], [0x5DC,
    0x5BC]]), (0xFB3E, [[0x5DE, 0x5BC]]), (0xFB40, [[0x5E0, 0x5BC], [0x5E1, 0x5BC]]), (0xFB43,
    [[0x5E3, 0x5BC], [0x5E4, 0x5BC]]), (0xFB46, [[0x5E6, 0x5BC], [0x5E7, 0x5BC], [0x5E8, 0x5BC],
    [0x5E9, 0x5BC], [0x5EA, 0x5BC], [0x5D5, 0x5B9], [0x5D1, 0x5BF], [0x5DB, 0x5BF], [0x5E4, 0x5BF],
    [0x5D0, 0x5DC], [0x671], [0x671], [0x67B], [0x67B], [0x67B], [0x67B], [0x67E], [0x67E], [0x67E],
    [0x67E], [0x680], [0x680], [0x680], [0x680], [0x67A], [0x67A], [0x67A], [0x67A], [0x67F],
    [0x67F], [0x67F], [0x67F], [0x679], [0x679], [0x679], [0x679], [0x6A4], [0x6A4], [0x6A4],
    [0x6A4], [0x6A6], [0x6A6], [0x6A6], [0x6A6], [0x684], [0x684], [0x684], [0x684], [0x683],
    [0x683], [0x683], [0x683], [0x686], [0x686], [0x686], [0x686], [0x687], [0x687], [0x687],
    [0x687], [0x68D], [0x68D], [0x68C], [0x68C], [0x68E], [0x68E], [0x688], [0x688], [0x698],
    [0x698], [0x691], [0x691], [0x6A9], [0x6A9], [0x6A9], [0x6A9], [0x6AF], [0x6AF], [0x6AF],
    [0x6AF], [0x6B3], [0x6B3], [0x6B3], [0x6B3], [0x6B1], [0x6B1], [0x6B1], [0x6B1], [0x6BA],
    [0x6BA], [0x6BB], [0x6BB], [0x6BB], [0x6BB], [0x6C0], [0x6C0], [0x6C1], [0x6C1], [0x6C1],
    [0x6C1], [0x6BE], [0x6BE], [0x6BE], [0x6BE], [0x6D2], [0x6D2], [0x6D3], [0x6D3]]), (0xFBD3,
    [[0x6AD], [0x6AD], [0x6AD], [0x6AD], [0x6C7], [0x6C7], [0x6C6], [0x6C6], [0x6C8], [0x6C8],
    [0x6C7, 0x674], [0x6CB], [0x6CB], [0x6C5], [0x6C5], [0x6C9], [0x6C9], [0x6D0], [0x6D0], [0x6D0],
    [0x6D0], [0x649], [0x649], [0x626, 0x627], [0x626, 0x627], [0x626, 0x6D5], [0x626, 0x6D5],
    [0x626, 0x648], [0x626, 0x648], [0x626, 0x6C7], [0x626, 0x6C7], [0x626, 0x6C6], [0x626, 0x6C6],
    [0x626, 0x6C8], [0x626, 0x6C8], [0x626, 0x6D0], [0x626, 0x6D0], [0x626, 0x6D0], [0x626, 0x649],
    [0x626, 0x649], [0x626, 0x649], [0x6CC], [0x6CC], [0x6CC], [0x6CC], [0x626, 0x62C], [0x626,
    0x62D], [0x626, 0x645], [0x626, 0x649], [0x626, 0x64A], [0x628, 0x62C], [0x628, 0x62D], [0x628,
    0x62E], [0x628, 0x645], [0x628, 0x649], [0x628, 0x64A], [0x62A, 0x62C], [0x62A, 0x62D], [0x62A,
    0x62E], [0x62A, 0x645], [0x62A, 0x649], [0x62A, 0x64A], [0x62B, 0x62C], [0x62B, 0x645], [0x62B,
    0x649], [0x62B, 0x64A], [0x62C, 0x62D], [0x62C, 0x645], [0x62D, 0x62C], [0x62D, 0x645], [0x62E,
    0x62C], [0x62E, 0x62D], [0x62E, 0x645], [0x633, 0x62C], [0x633, 0x62D], [0x633, 0x62E], [0x633,
    0x645], [0x635, 0x62D], [0x635, 0x645], [0x636, 0x62C], [0x636, 0x62D], [0x636, 0x62E], [0x636,
    0x645], [0x637, 0x62D], [0x637, 0x645], [0x638, 0x645], [0x639, 0x62C], [0x639, 0x645], [0x63A,
    0x62C], [0x63A, 0x645], [0x641, 0x62C], [0x641, 0x62D], [0x641, 0x62E], [0x641, 0x645], [0x641,
    0x649], [0x641, 0x64A], [0x642, 0x62D], [0x642, 0x645], [0x642, 0x649], [0x642, 0x64A], [0x643,
    0x627], [0x643, 0x62C], [0x643, 0x62D], [0x643, 0x62E], [0x643, 0x644], [0x643, 0x645], [0x643,
    0x649], [0x643, 0x64A], [0x644, 0x62C], [0x644, 0x62D], [0x644, 0x62E], [0x644, 0x645], [0x644,
    0x649], [0x644, 0x64A], [0x645, 0x62C], [0x645, 0x62D], [0x645, 0x62E], [0x645, 0x645], [0x645,
    0x649], [0x645, 0x64A], [0x646, 0x62C], [0x646, 0x62D], [0x646, 0x62E], [0x646, 0x645], [0x646,
    0x649], [0x646, 0x64A], [0x647, 0x62C], [0x647, 0x645], [0x647, 0x649], [0x647, 0x64A], [0x64A,
    0x62C], [0x64A, 0x62D], [0x64A, 0x62E], [0x64A, 0x645], [0x64A, 0x649], [0x64A, 0x64A], [0x630,
    0x670], [0x631, 0x670], [0x649, 0x670], [0x20, 0x64C, 0x651], [0x20, 0x64D, 0x651], [0x20,
    0x64E, 0x651], [0x20, 0x64F, 0x651], [0x20, 0x650, 0x651], [0x20, 0x651, 0x670], [0x626, 0x631],
    [0x626, 0x632], [0x626, 0x645], [0x626, 0x646], [0x626, 0x649], [0x626, 0x64A], [0x628, 0x631],
    [0x628, 0x632], [0x628, 0x645], [0x628, 0x646], [0x628, 0x649], [0x628, 0x64A], [0x62A, 0x631],
    [0x62A, 0x632], [0x62A, 0x645], [0x62A, 0x646], [0x62A, 0x649], [0x62A, 0x64A], [0x62B, 0x631],
    [0x62B, 0x632], [0x62B, 0x645], [0x62B, 0x646], [0x62B, 0x649], [0x62B, 0x64A], [0x641, 0x649],
    [0x641, 0x64A], [0x642, 0x649], [0x642, 0x64A], [0x643, 0x627], [0x643, 0x644], [0x643, 0x645],
    [0x643, 0x649], [0x643, 0x64A], [0x644, 0x645], [0x644, 0x649], [0x644, 0x64A], [0x645, 0x627],
    [0x645, 0x645], [0x646, 0x631], [0x646, 0x632], [0x646, 0x645], [0x646, 0x646], [0x646, 0x649],
    [0x646, 0x64A], [0x649, 0x670], [0x64A, 0x631], [0x64A, 0x632], [0x64A, 0x645], [0x64A, 0x646],
    [0x64A, 0x649], [0x64A, 0x64A], [0x626, 0x62C], [0x626, 0x62D], [0x626, 0x62E], [0x626, 0x645],
    [0x626, 0x647], [0x628, 0x62C], [0x628, 0x62D], [0x628, 0x62E], [0x628, 0x645], [0x628, 0x647],
    [0x62A, 0x62C], [0x62A, 0x62D], [0x62A, 0x62E], [0x62A, 0x645], [0x62A, 0x647], [0x62B, 0x645],
    [0x62C, 0x62D], [0x62C, 0x645], [0x62D, 0x62C], [0x62D, 0x645], [0x62E, 0x62C], [0x62E, 0x645],
    [0x633, 0x62C], [0x633, 0x62D], [0x633, 0x62E], [0x633, 0x645], [0x635, 0x62D], [0x635, 0x62E],
    [0x635, 0x645], [0x636, 0x62C], [0x636, 0x62D], [0x636, 0x62E], [0x636, 0x645], [0x637, 0x62D],
    [0x638, 0x645], [0x639, 0x62C], [0x639, 0x645], [0x63A, 0x62C], [0x63A, 0x645], [0x641, 0x62C],
    [0x641, 0x62D], [0x641, 0x62E], [0x641, 0x645], [0x642, 0x62D], [0x642, 0x645], [0x643, 0x62C],
    [0x643, 0x62D], [0x643, 0x62E], [0x643, 0x644], [0x643, 0x645], [0x644, 0x62C], [0x644, 0x62D],
    [0x644, 0x62E], [0x644, 0x645], [0x644, 0x647], [0x645, 0x62C], [0x645, 0x62D], [0x645, 0x62E],
    [0x645, 0x645], [0x646, 0x62C], [0x646, 0x62D], [0x646, 0x62E], [0x646, 0x645], [0x646, 0x647],
    [0x647, 0x62C], [0x647, 0x645], [0x647, 0x670], [0x64A, 0x62C], [0x64A, 0x62D], [0x64A, 0x62E],
    [0x64A, 0x645], [0x64A, 0x647], [0x626, 0x645], [0x626, 0x647], [0x628, 0x645], [0x628, 0x647],
    [0x62A, 0x645], [0x62A, 0x647], [0x62B, 0x645], [0x62B, 0x647], [0x633, 0x645], [0x633, 0x647],
    [0x634, 0x645], [0x634, 0x647], [0x643, 0x644], [0x643, 0x645], [0x644, 0x645], [0x646, 0x645],
    [0x646, 0x647], [0x64A, 0x645], [0x64A, 0x647], [0x640, 0x64E, 0x651], [0x640, 0x64F, 0x651],
    [0x640, 0x650, 0x651], [0x637, 0x649], [0x637, 0x64A], [0x639, 0x649], [0x639, 0x64A], [0x63A,
    0x649], [0x63A, 0x64A], [0x633, 0x649], [0x633, 0x64A], [0x634, 0x649], [0x634, 0x64A], [0x62D,
    0x649], [0x62D, 0x64A], [0x62C, 0x649], [0x62C, 0x64A], [0x62E, 0x649], [0x62E, 0x64A], [0x635,
    0x649], [0x635, 0x64A], [0x636, 0x649], [0x636, 0x64A], [0x634, 0x62C], [0x634, 0x62D], [0x634,
    0x62E], [0x634, 0x645], [0x634, 0x631], [0x633, 0x631], [0x635, 0x631], [0x636, 0x631], [0x637,
    0x649], [0x637, 0x64A], [0x639, 0x649], [0x639, 0x64A], [0x63A, 0x649], [0x63A, 0x64A], [0x633,
    0x649], [0x633, 0x64A], [0x634, 0x649], [0x634, 0x64A], [0x62D, 0x649], [0x62D, 0x64A], [0x62C,
    0x649], [0x62C, 0x64A], [0x62E, 0x649], [0x62E, 0x64A], [0x635, 0x649], [0x635, 0x64A], [0x636,
    0x649], [0x636, 0x64A], [0x634, 0x62C], [0x634, 0x62D], [0x634, 0x62E], [0x634, 0x645], [0x634,
    0x631], [0x633, 0x631], [0x635, 0x631], [0x636, 0x631], [0x634, 0x62C], [0x634, 0x62D], [0x634,
    0x62E], [0x634, 0x645], [0x633, 0x647], [0x634, 0x647], [0x637, 0x645], [0x633, 0x62C], [0x633,
    0x62D], [0x633, 0x62E], [0x634, 0x62C], [0x634, 0x62D], [0x634, 0x62E], [0x637, 0x645], [0x638,
    0x645], [0x627, 0x64B], [0x627, 0x64B]]), (0xFD50, [[0x62A, 0x62C, 0x645], [0x62A, 0x62D,
    0x62C], [0x62A, 0x62D, 0x62C], [0x62A, 0x62D, 0x645], [0x62A, 0x62E, 0x645], [0x62A, 0x645,
    0x62C], [0x62A, 0x645, 0x62D], [0x62A, 0x645, 0x62E], [0x62C, 0x645, 0x62D], [0x62C, 0x645,
    0x62D], [0x62D, 0x645, 0x64A], [0x62D, 0x645, 0x649], [0x633, 0x62D, 0x62C], [0x633, 0x62C,
    0x62D], [0x633, 0x62C, 0x649], [0x633, 0x645, 0x62D], [0x633, 0x645, 0x62D], [0x633, 0x645,
    0x62C], [0x633, 0x645, 0x645], [0x633, 0x645, 0x645], [0x635, 0x62D, 0x62D], [0x635, 0x62D,
    0x62D], [0x635, 0x645, 0x645], [0x634, 0x62D, 0x645], [0x634, 0x62D, 0x645], [0x634, 0x62C,
    0x64A], [0x634, 0x645, 0x62E], [0x634, 0x645, 0x62E], [0x634, 0x645, 0x645], [0x634, 0x645,
    0x645], [0x636, 0x62D, 0x649], [0x636, 0x62E, 0x645], [0x636, 0x62E, 0x645], [0x637, 0x645,
    0x62D], [0x637, 0x645, 0x62D], [0x637, 0x645, 0x645], [0x637, 0x645, 0x64A], [0x639, 0x62C,
    0x645], [0x639, 0x645, 0x645], [0x639, 0x645, 0x645], [0x639, 0x645, 0x649], [0x63A, 0x645,
    0x645], [0x63A, 0x645, 0x64A], [0x63A, 0x645, 0x649], [0x641, 0x62E, 0x645], [0x641, 0x62E,
    0x645], [0x642, 0x645, 0x62D], [0x642, 0x645, 0x645], [0x644, 0x62D, 0x645], [0x644, 0x62D,
    0x64A], [0x644, 0x62D, 0x649], [0x644, 0x62C, 0x62C], [0x644, 0x62C, 0x62C], [0x644, 0x62E,
    0x645], [0x644, 0x62E, 0x645], [0x644, 0x645, 0x62D], [0x644, 0x645, 0x62D], [0x645, 0x62D,
    0x62C], [0x645, 0x62D, 0x645], [0x645, 0x62D, 0x64A], [0x645, 0x62C, 0x62D], [0x645, 0x62C,
    0x645], [0x645, 0x62E, 0x62C], [0x645, 0x62E, 0x645]]), (0xFD92, [[0x645, 0x62C, 0x62E], [0x647,
    0x645, 0x62C], [0x647, 0x645, 0x645], [0x646, 0x62D, 0x645], [0x646, 0x62D, 0x649], [0x646,
    0x62C, 0x645], [0x646, 0x62C, 0x645], [0x646, 0x62C, 0x649], [0x646, 0x645, 0x64A], [0x646,
    0x645, 0x649], [0x64A, 0x645, 0x645], [0x64A, 0x645, 0x645], [0x628, 0x62E, 0x64A], [0x62A,
    0x62C, 0x64A], [0x62A, 0x62C, 0x649], [0x62A, 0x62E, 0x64A], [0x62A, 0x62E, 0x649], [0x62A,
    0x645, 0x64A], [0x62A, 0x645, 0x649], [0x62C, 0x645, 0x64A], [0x62C, 0x62D, 0x649], [0x62C,
    0x645, 0x649], [0x633, 0x62E, 0x649], [0x635, 0x62D, 0x64A], [0x634, 0x62D, 0x64A], [0x636,
    0x62D, 0x64A], [0x644, 0x62C, 0x64A], [0x644, 0x645, 0x64A], [0x64A, 0x62D, 0x64A], [0x64A,
    0x62C, 0x64A], [0x64A, 0x645, 0x64A], [0x645, 0x645, 0x64A], [0x642, 0x645, 0x64A], [0x646,
    0x62D, 0x64A], [0x642, 0x645, 0x62D], [0x644, 0x62D, 0x645], [0x639, 0x645, 0x64A], [0x643,
    0x645, 0x64A], [0x646, 0x62C, 0x62D], [0x645, 0x62E, 0x64A], [0x644, 0x62C, 0x645], [0x643,
    0x645, 0x645], [0x644, 0x62C, 0x645], [0x646, 0x62C, 0x62D], [0x62C, 0x62D, 0x64A], [0x62D,
    0x62C, 0x64A], [0x645, 0x62C, 0x64A], [0x641, 0x645, 0x64A], [0x628, 0x62D, 0x64A], [0x643,
    0x645, 0x645], [0x639, 0x62C, 0x645], [0x635, 0x645, 0x645], [0x633, 0x62E, 0x64A], [0x646,
    0x62C, 0x64A]]), (0xFDF0, [[0x635, 0x644, 0x6D2], [0x642, 0x644, 0x6D2], [0x627, 0x644, 0x644,
    0x647], [0x627, 0x643, 0x628, 0x631], [0x645, 0x62D, 0x645, 0x62F], [0x635, 0x644, 0x639,
    0x645], [0x631, 0x633, 0x648, 0x644], [0x639, 0x644, 0x64A, 0x647], [0x648, 0x633, 0x644,
    0x645], [0x635, 0x644, 0x649], [0x635, 0x644, 0x649, 0x20, 0x627, 0x644, 0x644, 0x647, 0x20,
    0x639, 0x644, 0x64A, 0x647, 0x20, 0x648, 0x633, 0x644, 0x645], [0x62C, 0x644, 0x20, 0x62C,
    0x644, 0x627, 0x644, 0x647], [0x631, 0x6CC, 0x627, 0x644]]), (0xFE10, [[0x2C], [0x3001]]),
    (0xFE13, [[0x3A], [0x3B], [0x21], [0x3F], [0x3016], [0x3017]]), (0xFE31, [[0x2014], [0x2013],
    [0x5F], [0x5F], [0x28], [0x29], [0x7B], [0x7D], [0x3014], [0x3015], [0x3010], [0x3011],
    [0x300A], [0x300B], [0x3008], [0x3009]]), (0xFE47, [[0x5B], [0x5D], [0x20, 0x305], [0x20,
    0x305], [0x20, 0x305], [0x20, 0x305], [0x5F], [0x5F], [0x5F], [0x2C], [0x3001]]), (0xFE54,
    [[0x3B], [0x3A], [0x3F], [0x21], [0x2014], [0x28], [0x29], [0x7B], [0x7D], [0x3014], [0x3015],
    [0x23], [0x26], [0x2A], [0x2B], [0x2D], [0x3C], [0x3E], [0x3D]]), (0xFE68, [[0x5C], [0x24],
    [0x25], [0x40]]), (0xFE70, [[0x20, 0x64B], [0x640, 0x64B], [0x20, 0x64C]]), (0xFE74, [[0x20,
    0x64D]]), (0xFE76, [[0x20, 0x64E], [0x640, 0x64E], [0x20, 0x64F], [0x640, 0x64F], [0x20, 0x650],
    [0x640, 0x650], [0x20, 0x651], [0x640, 0x651], [0x20, 0x652], [0x640, 0x652], [0x621], [0x622],
    [0x622], [0x623], [0x623], [0x624], [0x624], [0x625], [0x625], [0x626], [0x626], [0x626],
    [0x626], [0x627], [0x627], [0x628], [0x628], [0x628], [0x628], [0x629], [0x629], [0x62A],
    [0x62A], [0x62A], [0x62A], [0x62B], [0x62B], [0x62B], [0x62B], [0x62C], [0x62C], [0x62C],
    [0x62C], [0x62D], [0x62D], [0x62D], [0x62D], [0x62E], [0x62E], [0x62E], [0x62E], [0x62F],
    [0x62F], [0x630], [0x630], [0x631], [0x631], [0x632], [0x632], [0x633], [0x633], [0x633],
    [0x633], [0x634], [0x634], [0x634], [0x634], [0x635], [0x635], [0x635], [0x635], [0x636],
    [0x636], [0x636], [0x636], [0x637], [0x637], [0x637], [0x637], [0x638], [0x638], [0x638],
    [0x638], [0x639], [0x639], [0x639], [0x639], [0x63A], [0x63A], [0x63A], [0x63A], [0x641],
    [0x641], [0x641], [0x641], [0x642], [0x642], [0x642], [0x642], [0x643], [0x643], [0x643],
    [0x643], [0x644], [0x644], [0x644], [0x644], [0x645], [0x645], [0x645], [0x645], [0x646],
    [0x646], [0x646], [0x646], [0x647], [0x647], [0x647], [0x647], [0x648], [0x648], [0x649],
    [0x649], [0x64A], [0x64A], [0x64A], [0x64A], [0x644, 0x622], [0x644, 0x622], [0x644, 0x623],
    [0x644, 0x623], [0x644, 0x625], [0x644, 0x625], [0x644, 0x627], [0x644, 0x627]]), (0xFF5F,
    [[0x2985], [0x2986], [0x2E], [0x300C], [0x300D], [0x3001], [0x30FB], [0x30F2], [0x30A1],
    [0x30A3], [0x30A5], [0x30A7], [0x30A9], [0x30E3], [0x30E5], [0x30E7], [0x30C3], [0x30FC],
    [0x30A2], [0x30A4], [0x30A6], [0x30A8], [0x30AA], [0x30AB], [0x30AD], [0x30AF], [0x30B1],
    [0x30B3], [0x30B5], [0x30B7], [0x30B9], [0x30BB], [0x30BD], [0x30BF], [0x30C1], [0x30C4],
    [0x30C6], [0x30C8]]), (0xFF8B, [[0x30D2], [0x30D5], [0x30D8], [0x30DB]]), (0xFF94, [[0x30E4],
    [0x30E6]]), (0xFF9C, [[0x30EF], [0x30F3], [0x3099], [0x309A]]), (0xFFA1, [[0x1100], [0x1101],
    [0x11AA], [0x1102], [0x11AC], [0x11AD]]), (0xFFB0, [[0x111A]]), (0xFFB4, [[0x1121]]), (0xFFE0,
    [[0xA2], [0xA3], [0xAC], [0x20, 0x304], [0xA6], [0xA5], [0x20A9]]), (0xFFE8, [[0x2502]]),
    (0xFFED, [[0x25A0], [0x25CB]])]

end Telemetry.Url
